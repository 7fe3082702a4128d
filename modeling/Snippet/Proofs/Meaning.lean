import Mathlib
import Snippet.Proofs.Grouping

/-!
# What the languages with braces make of a rendered expression

The levels of C++ and TypeScript order some operators otherwise than the snippet language: a
comparison binds more tightly than `&`, `^` and `|`, and two signs `-` next to each other are the
one token `--`. Operands are grouped by the levels of the snippet language, so an expression keeps
its meaning where it has neither a bitwise operand of a comparison nor a sign right under the same
sign.
-/

namespace Snippet

open Formula Render

def comparisons (ops : List (String × CompareOp)) : Level :=
  .left (ops.map fun (sign, op) => (sign, fun left right => .comparison left op right))

def targetPrefixes : List (String × UnaryOp) :=
  [("!", .not), ("~", .invert), ("+", .plus), ("-", .minus)]

/-- The operators that C++ and TypeScript share with the snippet language, the loosest first, among
the signs of both languages. -/
def targetGrammar : Grammar where
  levels := [
    .choice,
    .run "||" .or,
    .run "&&" .and,
    binaries [("|", .bitOr)],
    binaries [("^", .bitXor)],
    binaries [("&", .bitAnd)],
    comparisons [("==", .equal), ("!=", .notEqual)],
    comparisons [("<", .less), ("<=", .lessEqual), (">", .greater), (">=", .greaterEqual)],
    binaries [("<<", .leftShift), (">>", .rightShift)],
    binaries [("+", .add), ("-", .sub)],
    binaries [("*", .mult), ("/", .div), ("%", .mod)],
    .before targetPrefixes]
  signs := [".", "(", ")", "[", "]", ",", "?", ":", "||", "&&", "!", "==", "!=", "<", "<=", ">",
    ">=", "|", "^", "&", "<<", ">>", "+", "-", "*", "/", "%", "~", "++", "--", "->", "=>", "=",
    "+=", "-=", "*=", "/=", "%=", "&=", "|=", "^=", "<<=", ">>="]
  distinct := by decide
  closers := by decide
  unopened := by decide
  punctuates := by decide
  separates := by decide
  groups := by decide

/-- The level at which C++ and TypeScript read a text that binds with a strength of the snippet
language. -/
def targetRank : Nat → Nat
  | 3 => 11
  | 4 => 6
  | 5 => 3
  | 6 => 4
  | 7 => 5
  | 13 => 12
  | strength => strength

/-- The place of an operand of a comparison of either level. -/
def targetComparand : Nat := 8

namespace Expr

/-- No operator at the top, or one that C++ and TypeScript have too. -/
def sharesOperator : Expr → Prop
  | .binary _ op _ => op ≠ .matMult ∧ op ≠ .pow ∧ op ≠ .floorDiv
  | .compare _ ops _ => ∀ op ∈ ops, op ≠ .isIn ∧ op ≠ .notIn
  | _ => True

def isBitwise : Expr → Bool
  | .binary _ op _ => op == .bitOr || op == .bitXor || op == .bitAnd
  | _ => false

/-- No bitwise expression is compared, and no sign `+` or `-` stands right under the same sign. -/
def keepsMeaning : Expr → Prop
  | .unary op (.unary inner _) => op = .plus ∨ op = .minus → inner ≠ op
  | .compare left _ comparators => ∀ operand ∈ left :: comparators, operand.isBitwise = false
  | _ => True

end Expr

section TargetLevels

variable {dialect : Dialect} {style : Layout.BraceStyle}

theorem targetRank_lt : ∀ strength ≤ Strength.unary, strength ≠ 3 → strength ≠ Strength.comparison →
    ∀ tighter ≤ Strength.atom, strength < tighter → targetRank strength < targetRank tighter := by
  decide

theorem targetRank_le_length : ∀ strength ≤ Strength.atom,
    targetRank strength ≤ targetGrammar.levels.length := by
  decide

theorem targetRank_le {strength tighter : Nat} (hunary : strength ≤ Strength.unary)
    (hnot : strength ≠ 3) (hcomparison : strength ≠ Strength.comparison)
    (hatom : tighter ≤ Strength.atom) (hle : strength ≤ tighter) :
    targetRank strength ≤ targetRank tighter := by
  rcases Nat.eq_or_lt_of_le hle with rfl | hlt
  · exact Nat.le_refl _
  · exact Nat.le_of_lt (targetRank_lt strength hunary hnot hcomparison tighter hatom hlt)

theorem targetComparand_le {operand : Expr} (hbitwise : operand.isBitwise = false)
    (htight : Strength.comparison < operand.strength) :
    targetComparand ≤ targetRank operand.strength := by
  have hother : ∀ strength ≤ Strength.atom, 8 ≤ strength →
      targetComparand ≤ targetRank strength := by decide
  refine hother _ operand.strength_le_atom ?_
  cases operand with
  | binary left op right =>
      cases op with
      | bitOr | bitXor | bitAnd => cases hbitwise
      | _ => simp [Expr.strength, BinaryOp.strength]
  | unary op operand =>
      cases op with
      | not => exact absurd htight (by decide : ¬ Strength.comparison < 3)
      | _ => exact (by decide : 8 ≤ Strength.unary)
  | bool op values =>
      cases op with
      | and => exact absurd htight (by decide : ¬ Strength.comparison < 2)
      | or => exact absurd htight (by decide : ¬ Strength.comparison < 1)
  | _ => simp_all [Expr.strength, Strength.conditional, Strength.comparison, Strength.atom]

theorem shows_targetComparison {op : CompareOp} (his : op ≠ .is ∧ op ≠ .isNot)
    (hin : op ≠ .isIn ∧ op ≠ .notIn) {first second : String} {left right : Expr}
    (h₁ : Shows targetGrammar targetComparand first left)
    (h₂ : Shows targetGrammar targetComparand second right) :
    Shows targetGrammar (targetRank Strength.comparison)
      (first ++ (" " ++ (Operator.compare op).curlySpelling ++ " ") ++ second)
      (.comparison left op right) := by
  have hrelation : Shows targetGrammar 7 first left := h₁.antitone (by decide) (by decide)
  have hequality : Shows targetGrammar 6 first left := h₁.antitone (by decide) (by decide)
  have htighter : Shows targetGrammar 7 second right := h₂.antitone (by decide) (by decide)
  cases op with
  | is => exact absurd rfl his.1
  | isNot => exact absurd rfl his.2
  | isIn => exact absurd rfl hin.1
  | notIn => exact absurd rfl hin.2
  | equal | notEqual =>
      exact shows_left (fun op left right => .comparison left op right) rfl rfl hequality htighter
  | less | lessEqual | greater | greaterEqual =>
      refine Shows.climb (?_ : Shows targetGrammar 7 _ _) (by decide)
      exact shows_left (fun op left right => .comparison left op right) rfl rfl hrelation h₂

theorem shows_targetBinary {op : BinaryOp} (hop : op ≠ .matMult ∧ op ≠ .pow ∧ op ≠ .floorDiv)
    {first second : String} {left right : Expr}
    (h₁ : Shows targetGrammar (targetRank op.strength) first left)
    (h₂ : Shows targetGrammar (targetRank op.strength + 1) second right) :
    Shows targetGrammar (targetRank op.strength)
      (first ++ (" " ++ (Operator.binary op).curlySpelling ++ " ") ++ second)
      (.binary left op right) := by
  cases op with
  | matMult => exact absurd rfl hop.1
  | pow => exact absurd rfl hop.2.1
  | floorDiv => exact absurd rfl hop.2.2
  | _ => exact shows_left (fun op left right => .binary left op right) rfl rfl h₁ h₂

/-- Without powers, nothing binds more tightly than a sign before its operand but what is whole. -/
theorem atom_le_strength {expr : Expr} (hshares : expr.sharesOperator)
    (hunary : ∀ op operand, expr ≠ .unary op operand) (htight : Strength.unary ≤ expr.strength) :
    Strength.atom ≤ expr.strength := by
  cases expr with
  | unary op operand => exact absurd rfl (hunary op operand)
  | binary left op right =>
      cases op <;> simp_all [Expr.sharesOperator, Expr.strength, BinaryOp.strength, Strength.unary]
  | bool op values =>
      cases op <;> simp [Expr.strength, Operator.strength, Strength.unary] at htight
  | _ => simp_all [Expr.strength, Strength.unary, Strength.conditional, Strength.comparison]

/-- The characters that make a longer token of a sign before its operand. -/
def UnaryOp.continuations : UnaryOp → List Char
  | invert => []
  | not => ['=']
  | plus => ['+', '=']
  | minus => ['-', '>', '=']

theorem extensions_unary (op : UnaryOp) :
    extensions targetGrammar.signs (Operator.unary op).curlySpelling = op.continuations := by
  cases op <;> decide +kernel

theorem head_not_mem_extensions {op inner : UnaryOp} (hne : op = .plus ∨ op = .minus → inner ≠ op)
    {c : Char} (hc : (Operator.unary inner).curlySpelling.toList.head? = some c) :
    c ∉ extensions targetGrammar.signs (Operator.unary op).curlySpelling := by
  rw [extensions_unary]
  have hsigns : c = '~' ∧ inner = .invert ∨ c = '!' ∧ inner = .not ∨ c = '+' ∧ inner = .plus ∨
      c = '-' ∧ inner = .minus := by
    cases inner <;> simpa [Operator.curlySpelling, eq_comm] using hc
  cases op with
  | invert | not => rcases hsigns with ⟨rfl, -⟩ | ⟨rfl, -⟩ | ⟨rfl, -⟩ | ⟨rfl, -⟩ <;> decide
  | plus =>
      have hother : inner ≠ .plus := hne (.inl rfl)
      rcases hsigns with ⟨rfl, -⟩ | ⟨rfl, -⟩ | ⟨-, hsame⟩ | ⟨rfl, -⟩
      case inr.inr.inl => exact absurd hsame hother
      all_goals decide
  | minus =>
      have hother : inner ≠ .minus := hne (.inr rfl)
      rcases hsigns with ⟨rfl, -⟩ | ⟨rfl, -⟩ | ⟨rfl, -⟩ | ⟨-, hsame⟩
      case inr.inr.inr => exact absurd hsame hother
      all_goals decide

/-- The first character of an operand does not make a longer token of the sign before it. -/
theorem operand_not_mem_extensions {op : UnaryOp} {operand : Expr} {text : String}
    (hkeeps : (Expr.unary op operand).keepsMeaning) (hshares : operand.sharesOperator)
    (hlead : operand.Leads text) {c : Char}
    (hc : c ∈ (Target.operand (.curly dialect style) (.unary op) Strength.unary operand
      text).toList.head?) :
    c ∉ extensions targetGrammar.signs (Operator.unary op).curlySpelling := by
  have hopener : ∀ c, isWordStart c = true ∨ c = '(' →
      c ∉ extensions targetGrammar.signs (Operator.unary op).curlySpelling := by
    intro c hfirst hmem
    have hnone : op.continuations.any (fun c => isWordStart c || c == '(') = false := by
      cases op <;> decide
    rw [List.any_eq_false] at hnone
    exact hnone c (extensions_unary op ▸ hmem) (by simpa using hfirst)
  rw [Target.operand] at hc
  by_cases hloose : operand.strength < Strength.unary
  · rw [if_pos (by simpa [Target.groupsOperands] using hloose)] at hc
    exact hopener c (.inr (by simpa [Target.group] using hc.symm))
  · rw [if_neg (by simpa [Target.groupsOperands] using hloose)] at hc
    have hfirst := hlead c hc
    have htight : Strength.unary ≤ operand.strength := Nat.not_lt.mp hloose
    cases operand with
    | unary inner _ => exact head_not_mem_extensions hkeeps hfirst
    | _ => exact hopener c (hfirst (atom_le_strength hshares (by simp) htight))

/-- C++ and TypeScript read back the nodes that share their operators and keep their meaning. -/
theorem targetGrammar_readback :
    Readback targetGrammar targetRank targetComparand
      (fun expr => expr.sharesOperator ∧ expr.keepsMeaning) dialect style where
  rank_le := targetRank_le_length
  rank_atom := rfl
  rank_choice := rfl
  choice := rfl
  rank_pos := by decide
  run op := by cases op <;> rfl
  run_lt op := by
    cases op <;> exact targetRank_lt _ (by decide) (by decide) (by decide)
  place_le := by decide
  comparand h hoperand htight := targetComparand_le (h.2 _ hoperand) htight
  comparison h hop his h₁ h₂ := shows_targetComparison his (h.1 _ hop) h₁ h₂
  unary {op operand tree text} h hoperand hlead hshows := by
    have hplace : Shows targetGrammar (targetRank Strength.unary)
        (Target.operand (.curly dialect style) (.unary op) Strength.unary operand text) tree := by
      refine shows_operand dialect style _ ?_ (by decide) (fun htight => ?_) hshows
      · exact targetRank_le_length _ operand.strength_le_atom
      · exact targetRank_le (by decide) (by decide) (by decide) operand.strength_le_atom htight
    have hhead : ∀ c ∈ (Target.operand (.curly dialect style) (.unary op) Strength.unary operand
        text).toList.head?, c ∉ extensions targetGrammar.signs (Operator.unary op).curlySpelling :=
      fun c hc => operand_not_mem_extensions h.2 hoperand.1 hlead hc
    cases op <;> exact Shows.before_of_head rfl rfl (by decide) (by decide) (by decide) hhead hplace
  binary {left right tree other op first second} h hop h₁ h₂ := by
    have hleast : op.leastStrengths = (op.strength, op.strength + 1) := if_neg h.1.2.1
    obtain ⟨hunary, hnot, hcomparison⟩ : op.strength ≤ Strength.unary ∧ op.strength ≠ 3 ∧
        op.strength ≠ Strength.comparison := by
      have hpow := h.1.2.1
      cases op <;> first | decide | exact absurd rfl hpow
    have htighter := targetRank_lt op.strength hunary hnot hcomparison
    rw [hleast]
    refine shows_targetBinary h.1 (shows_operand dialect style _ ?_ ?_ (fun htight => ?_) h₁)
      (shows_operand dialect style _ ?_ ?_ (fun htight => ?_) h₂)
    · exact targetRank_le_length _ left.strength_le_atom
    · exact targetRank_le_length _ (Operator.binary op).strength_le_atom
    · exact targetRank_le hunary hnot hcomparison left.strength_le_atom htight
    · exact targetRank_le_length _ right.strength_le_atom
    · exact htighter Strength.atom (Nat.le_refl _) (Nat.lt_of_le_of_lt hunary (by decide))
    · exact htighter _ right.strength_le_atom htight

end TargetLevels

/-- **Expressions keep their meaning.** A plain expression of the operators that C++ and TypeScript
have too is rendered to a text that these languages read as the expression, with its chains of
comparisons expanded, if no part of it compares a bitwise expression or puts a sign `+` or `-` right
under the same sign. -/
theorem targetGrammar_read?_render (dialect : Dialect) (style : Layout.BraceStyle)
    (around : Surroundings) (asType : Bool) {expr : Expr} (h : expr.Plain dialect around)
    (hshares : ∀ part ∈ expr.parts, part.sharesOperator)
    (hkeeps : ∀ part ∈ expr.parts, part.keepsMeaning) :
    ∃ text, expr.render (.curly dialect style) around asType = .ok text ∧
      targetGrammar.read? text = some expr.chainsExpanded := by
  obtain ⟨text, hrender, -, hshows⟩ :
      ShownBy targetGrammar targetRank dialect style around asType expr :=
    targetGrammar_readback.shown h fun part hpart => ⟨hshares part hpart, hkeeps part hpart⟩
  have hlength := targetRank_le_length _ expr.strength_le_atom
  exact ⟨text, hrender, (hshows.antitone (Nat.zero_le _) hlength).read?_eq⟩

/-- A chain over a sum, a shift and an inversion, `-+a + b < c << b == ~c`. -/
theorem targetGrammar_read?_render_chain :
    let signed := Expr.unary .minus (.unary .plus (.name "a"))
    let shifted := Expr.binary (.name "c") .leftShift (.name "b")
    let chain := Expr.compare (.binary signed .add (.name "b")) [.less, .equal]
      [shifted, .unary .invert (.name "c")]
    (chain.Plain .cpp .outermost ∧ (∀ part ∈ chain.parts, part.sharesOperator) ∧
        ∀ part ∈ chain.parts, part.keepsMeaning) ∧
      ∃ text, chain.render (.curly .cpp .allman) .outermost false = .ok text ∧
        targetGrammar.read? text = some chain.chainsExpanded := by
  intro signed shifted chain
  have ha : (Expr.name "a").Plain .cpp .outermost :=
    .name ⟨'a', [], rfl, rfl, rfl⟩ (by decide) (by decide)
  have hb : (Expr.name "b").Plain .cpp .outermost :=
    .name ⟨'b', [], rfl, rfl, rfl⟩ (by decide) (by decide)
  have hc : (Expr.name "c").Plain .cpp .outermost :=
    .name ⟨'c', [], rfl, rfl, rfl⟩ (by decide) (by decide)
  have hsigned : signed.Plain .cpp .outermost := .unary .minus (.unary .plus ha)
  have hshifted : shifted.Plain .cpp .outermost := .binary (by decide) hc hb
  have hplain : chain.Plain .cpp .outermost := by
    refine .compare (by decide) rfl (by simp) (.binary (by decide) hsigned hb) ?_
    simpa using ⟨hshifted, .unary .invert hc⟩
  have hshares : ∀ part ∈ chain.parts, part.sharesOperator := by
    simp [chain, signed, shifted, Expr.parts, Expr.partsAll, Expr.sharesOperator]
  have hkeeps : ∀ part ∈ chain.parts, part.keepsMeaning := by
    simp [chain, signed, shifted, Expr.parts, Expr.partsAll, Expr.keepsMeaning, Expr.isBitwise]
  exact ⟨⟨hplain, hshares, hkeeps⟩,
    targetGrammar_read?_render .cpp .allman .outermost false hplain hshares hkeeps⟩

/-- No condition on the parts can be left out: a sign under the same sign makes a decrement, and a
comparison takes the nearer operand of a bitwise one. -/
theorem keepsMeaning_needed :
    let negated := Expr.unary .minus (.unary .minus (.name "a"))
    let masked := Expr.compare (.binary (.name "a") .bitAnd (.name "b")) [.equal] [.name "c"]
    negated.render (.curly .cpp .kAndR) .outermost false = .ok "--a" ∧
      targetGrammar.read? "--a" = none ∧
      masked.render (.curly .cpp .kAndR) .outermost false = .ok "a & b == c" ∧
      targetGrammar.read? "a & b == c" =
        some (.binary (.name "a") .bitAnd (.comparison (.name "b") .equal (.name "c"))) ∧
      targetGrammar.read? "a & b == c" ≠ some masked.chainsExpanded := by
  intro negated masked
  have hread : targetGrammar.read? "a & b == c" =
      some (.binary (.name "a") .bitAnd (.comparison (.name "b") .equal (.name "c"))) := by cbv
  refine ⟨rfl, by cbv, rfl, hread, ?_⟩
  rw [hread]
  simp [masked, Expr.chainsExpanded, Expr.chainsExpandedAll, Expr.links, Expr.conjunction,
    Expr.comparison]

end Snippet
