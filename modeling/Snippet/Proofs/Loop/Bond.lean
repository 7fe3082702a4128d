import Snippet.Proofs.Loop.Texts
import Snippet.Proofs.Outline.Expr
import Snippet.Proofs.WellFormed

/-!
# What expressions expose

An expression has parentheses around its parts where the snippet language needs them, and the
levels of C are others. `Expr.bond` is the level of the loosest operator of C that the text of an
expression leaves outside all brackets, and no text exposes a comma, a semicolon or an assignment.
-/

namespace Snippet

open Layout (BraceStyle)
open Loop
open Render

/-! ### Bonds -/

/-- The level of an operator in C; what C does not have is spelled with what it has. -/
def Operator.level : Operator → Nat
  | .binary .bitOr => Level.bitOr
  | .binary .bitXor => Level.bitXor
  | .binary .bitAnd => Level.bitAnd
  | .binary .leftShift | .binary .rightShift => Level.shift
  | .binary _ | .unary _ => Level.arithmetic
  | .bool .or => Level.disjunction
  | .bool .and => Level.conjunction
  | .compare .equal | .compare .notEqual | .compare .is | .compare .isNot => Level.equality
  | .compare _ => Level.relation

/-- The level that an operand leaves outside brackets where it needs some strength. -/
def within (strength least level : Nat) : Nat := if strength < least then Level.primary else level

mutual

/-- The loosest level that the text of an expression leaves outside brackets. -/
def Expr.bond : Expr → Nat
  | .constant _ => Level.arithmetic
  | .name _ => Level.access
  | .member value _ | .call value _ | .subscript value _ | .starred value =>
    min Level.access (within value.strength Strength.atom value.bond)
  | .unary op operand =>
    min (Operator.unary op).level (within operand.strength Strength.unary operand.bond)
  | .binary left op right =>
    min (Operator.binary op).level
      (min (within left.strength op.leastStrengths.1 left.bond)
        (within right.strength op.leastStrengths.2 right.bond))
  | .bool op values =>
    min (Operator.bool op).level (Expr.bondAll ((Operator.bool op).strength + 1) values)
  | .compare left [op] [right] =>
    min (Operator.compare op).level
      (min (within left.strength (Strength.comparison + 1) left.bond)
        (within right.strength (Strength.comparison + 1) right.bond))
  | .conditional .. => Level.conditional
  | _ => Level.primary

def Expr.bondAll (least : Nat) : List Expr → Nat
  | [] => Level.primary
  | expr :: rest => min (within expr.strength least expr.bond) (Expr.bondAll least rest)

end

/-- No operator of an expression is looser than the conditional. -/
theorem Operator.conditional_lt_level (op : Operator) : Level.conditional < op.level := by
  rcases op with op | op | op | op <;> cases op <;> decide

theorem le_within {least level : Nat} (h : least ≤ level) (hprimary : least ≤ Level.primary)
    (strength asked : Nat) : least ≤ within strength asked level := by
  rw [within]
  split
  · exact hprimary
  · exact h

mutual

theorem Expr.conditional_le_bond : (expr : Expr) → Level.conditional ≤ expr.bond
  | .constant _ | .name _ | .tuple _ | .list _ | .set _ | .dict _ | .conditional .. | .slice ..
  | .matchValue _ | .matchAs _ => by
      simp only [Expr.bond]
      decide
  | .member value _ | .call value _ | .subscript value _ | .starred value => by
      simp only [Expr.bond]
      exact Nat.le_min.mpr ⟨by decide, le_within value.conditional_le_bond (by decide) _ _⟩
  | .unary op operand => by
      simp only [Expr.bond]
      exact Nat.le_min.mpr ⟨Nat.le_of_lt (Operator.conditional_lt_level _),
        le_within operand.conditional_le_bond (by decide) _ _⟩
  | .binary left op right => by
      simp only [Expr.bond]
      exact Nat.le_min.mpr ⟨Nat.le_of_lt (Operator.conditional_lt_level _),
        Nat.le_min.mpr ⟨le_within left.conditional_le_bond (by decide) _ _,
          le_within right.conditional_le_bond (by decide) _ _⟩⟩
  | .bool op values => by
      simp only [Expr.bond]
      exact Nat.le_min.mpr ⟨Nat.le_of_lt (Operator.conditional_lt_level _),
        Expr.conditional_le_bondAll _ values⟩
  | .compare left [op] [right] => by
      simp only [Expr.bond]
      exact Nat.le_min.mpr ⟨Nat.le_of_lt (Operator.conditional_lt_level _),
        Nat.le_min.mpr ⟨le_within left.conditional_le_bond (by decide) _ _,
          le_within right.conditional_le_bond (by decide) _ _⟩⟩
  | .compare _ [] _ | .compare _ [_] [] | .compare _ [_] (_ :: _ :: _)
  | .compare _ (_ :: _ :: _) _ => by
      simp only [Expr.bond]
      decide

theorem Expr.conditional_le_bondAll (least : Nat) : (exprs : List Expr) →
    Level.conditional ≤ Expr.bondAll least exprs
  | [] => by
      rw [Expr.bondAll]
      decide
  | expr :: rest => by
      rw [Expr.bondAll]
      exact Nat.le_min.mpr ⟨le_within expr.conditional_le_bond (by decide) _ _,
        Expr.conditional_le_bondAll least rest⟩

end

/-! ### Forms -/

section Forms

variable {dialect : Dialect} {style : BraceStyle} {least : Nat} {text first second : String}

theorem trimmed_of_all (hne : text.toList ≠ [])
    (h : text.toList.all (fun c => !Text.isBlank c) = true) : Trimmed text :=
  trimmed_of_forall hne fun c hc => by simpa using List.all_eq_true.mp h c hc

theorem Loop.Sealed.stands_group (h : Sealed text) : Stands Level.primary ("(" ++ text ++ ")") :=
  ⟨exposes_of_hidden (by simp [isHarmless]) h.hidden_group,
    (trimmed_of_all (by decide) (by decide)).between text (trimmed_of_all (by decide) (by decide))⟩

theorem Loop.Sealed.stands_index (h : Sealed text) : Stands Level.primary ("[" ++ text ++ "]") :=
  ⟨exposes_of_hidden (by simp [isHarmless]) h.hidden_index,
    (trimmed_of_all (by decide) (by decide)).between text (trimmed_of_all (by decide) (by decide))⟩

theorem Loop.Sealed.stands_braces (h : Sealed text) :
    Stands Level.primary ("\x7b" ++ text ++ "\x7d") :=
  ⟨exposes_of_hidden (by simp [isHarmless]) h.hidden_braces,
    (trimmed_of_all (by decide) (by decide)).between text (trimmed_of_all (by decide) (by decide))⟩

theorem stands_within {strength asked level : Nat} {grouped : String}
    (hgrouped : Stands Level.primary grouped) (h : Stands level text) :
    Stands (within strength asked level) (if strength < asked then grouped else text) := by
  rw [within]
  split
  · exact hgrouped
  · exact h

theorem stands_operand {expr : Expr} (hsealed : Sealed text) (h : Stands expr.bond text)
    (op : Operator) (asked : Nat) :
    Stands (within expr.strength asked expr.bond)
      (Target.operand (.curly dialect style) op asked expr text) := by
  have hform : Target.operand (.curly dialect style) op asked expr text =
      if expr.strength < asked then "(" ++ text ++ ")" else text := by
    simp [Target.operand, Target.groupsOperands, Target.group]
  rw [hform]
  exact stands_within hsealed.stands_group h

theorem stands_atom {expr : Expr} (hsealed : Sealed text) (h : Stands expr.bond text) :
    Stands (within expr.strength Strength.atom expr.bond)
      (Target.atom (.curly dialect style) expr text) :=
  stands_within hsealed.stands_group h

theorem stands_choice {expr : Expr} (hsealed : Sealed text) (h : Stands expr.bond text) :
    Stands Level.conditional (Target.choice (.curly dialect style) expr text) := by
  rw [Target.choice]
  split
  · exact hsealed.stands_group.mono (by decide)
  · exact h.mono expr.conditional_le_bond

def infixes : List Operator :=
  [.bool .or, .bool .and, .binary .add, .binary .sub, .binary .mult, .binary .matMult, .binary .div,
    .binary .mod, .binary .pow, .binary .leftShift, .binary .rightShift, .binary .bitOr,
    .binary .bitXor, .binary .bitAnd, .binary .floorDiv, .compare .equal, .compare .notEqual,
    .compare .less, .compare .lessEqual, .compare .greater, .compare .greaterEqual, .compare .is,
    .compare .isNot, .compare .isIn, .compare .notIn]

/-- The spellings are read together, since each reading goes through the table of all signs. -/
theorem separates_infixes :
    infixes.all (fun op => separates op.level (" " ++ op.curlySpelling)) = true := by
  decide +kernel

theorem separates_identity :
    separates Level.equality " ===" = true ∧ separates Level.equality " !==" = true := by
  decide +kernel

theorem separates_infix (dialect : Dialect) {op : Operator} (h : op ∈ infixes) :
    separates op.level (" " ++ dialect.operator op) = true := by
  rw [Dialect.operator.eq_def]
  split
  · exact separates_identity.1
  · exact separates_identity.2
  · exact List.all_eq_true.mp separates_infixes op h

theorem separates_binary (dialect : Dialect) (op : BinaryOp) :
    separates (Operator.binary op).level (" " ++ dialect.operator (.binary op)) = true :=
  separates_infix dialect (by cases op <;> decide)

theorem separates_bool (dialect : Dialect) (op : BoolOp) :
    separates (Operator.bool op).level (" " ++ dialect.operator (.bool op)) = true :=
  separates_infix dialect (by cases op <;> decide)

theorem separates_compare (dialect : Dialect) (op : CompareOp) :
    separates (Operator.compare op).level (" " ++ dialect.operator (.compare op)) = true :=
  separates_infix dialect (by cases op <;> decide)

theorem Operator.level_le_primary (op : Operator) : op.level ≤ Level.primary := by
  rcases op with op | op | op | op <;> cases op <;> decide

/-- The same characters stand alike, wherever literals are cut. -/
theorem stands_respelled {spelling : String} (h : Stands least spelling)
    (heq : text.toList = spelling.toList) : Stands least text :=
  String.toList_injective heq ▸ h

theorem stands_word {word : String} (hne : word.toList ≠ [])
    (h : word.toList.all isNameChar = true) (hle : least ≤ Level.primary) : Stands least word :=
  (stands_of_isNameChar hne h).mono hle

theorem stands_std (h : Stands Level.access text) : Stands Level.access ("std::" ++ text) := by
  have hstd : Stands Level.access "std" := stands_word (by decide) (by decide) (by decide)
  exact stands_respelled (hstd.between exposes_access.2 h) (by simp)

theorem stands_name {ident : String} (h : IsName ident) (around : Surroundings) :
    Stands Level.access (dialect.name around ident) := by
  rw [Dialect.name]
  cases hrename : dialect.rename? ident with
  | some renamed =>
      show Stands Level.access renamed
      rw [Dialect.rename?.eq_def] at hrename
      split at hrename
      · obtain ⟨-, hsome⟩ := Option.ite_none_right_eq_some.mp hrename
        obtain rfl := Option.some.inj hsome
        exact stands_std (h.stands.mono (by decide))
      · obtain rfl := Option.some.inj hrename
        exact stands_word (by decide) (by decide) (by decide)
      · obtain rfl := Option.some.inj hrename
        exact stands_word (by decide) (by decide) (by decide)
      · obtain ⟨-, hsome⟩ := Option.ite_none_right_eq_some.mp hrename
        obtain rfl := Option.some.inj hsome
        have hmath : Stands Level.access "Math." := stands_word (by decide) (by decide) (by decide)
        exact hmath.append (h.stands.mono (by decide))
  | none =>
      dsimp only
      split
      · exact stands_word (by decide) (by decide) (by decide)
      · exact (h.stands_styledName dialect).mono (by decide)

theorem stands_member {object attr : String} (hobject : Stands least object) (h : IsName attr) :
    Stands (min Level.access least) (dialect.member object attr) := by
  have hstyled : Stands Level.access (dialect.styledName attr) :=
    (h.stands_styledName dialect).mono (by decide)
  have hdot : Stands Level.access "." := stands_word (by decide) (by decide) (by decide)
  have hplain : Stands (min Level.access least) (object ++ "." ++ dialect.styledName attr) :=
    (hobject.mono (Nat.min_le_right _ _)).between (hdot.exposes.mono (Nat.min_le_left _ _))
      (hstyled.mono (Nat.min_le_left _ _))
  rw [Dialect.member.eq_def]
  split
  · refine Stands.mono ?_ (Nat.min_le_left _ _)
    split
    · have hnumbers : Stands Level.access "numbers" :=
        stands_word (by decide) (by decide) (by decide)
      have hpi : Stands Level.access "pi" := stands_word (by decide) (by decide) (by decide)
      exact stands_respelled (stands_std (hnumbers.between exposes_access.2 hpi)) rfl
    · exact stands_std (h.stands.mono (by decide))
  · have hthis : Stands Level.access "this" := stands_word (by decide) (by decide) (by decide)
    refine Stands.mono ?_ (Nat.min_le_left _ _)
    exact stands_respelled (hthis.between exposes_access.1 hstyled) (by simp)
  · split
    · exact stands_word (by decide) (by decide) (Nat.le_trans (Nat.min_le_left _ _) (by decide))
    · exact hplain
  · exact hplain

theorem stands_unary {operand : String} (op : UnaryOp) (h : Stands least operand) :
    Stands (min (Operator.unary op).level least) (dialect.operator (.unary op) ++ operand) := by
  have hsign : Stands Level.arithmetic (dialect.operator (.unary op)) := by
    rw [dialect.operator_eq_curlySpelling (by simp) (by simp)]
    refine ⟨exposes_of_isMild ?_, trimmed_of_all ?_ ?_⟩
    all_goals cases op <;> decide
  exact (hsign.mono (Nat.min_le_left _ _)).append (h.mono (Nat.min_le_right _ _))

theorem stands_intercalate {separator : String} (hseparator : Exposes least separator)
    {texts : List String} (hne : texts ≠ []) (h : ∀ text ∈ texts, Stands least text) :
    Stands least (separator.intercalate texts) := by
  induction texts with
  | nil => exact absurd rfl hne
  | cons first rest ih =>
      obtain ⟨hfirst, hrest⟩ := List.forall_mem_cons.mp h
      by_cases hlast : rest = []
      · subst hlast
        rwa [String.intercalate_singleton]
      · rw [String.intercalate_cons_of_ne_nil hlast]
        exact hfirst.between hseparator (ih hlast hrest)

theorem stands_infixed {op : Operator} {texts : List String} (hne : texts ≠ [])
    (hop : separates op.level (" " ++ dialect.operator op) = true)
    (h : ∀ text ∈ texts, Stands least text) :
    Stands (min op.level least)
      (Target.infixed (.curly dialect style) op texts) :=
  stands_intercalate ((exposes_of_separates op.level_le_primary hop).mono (Nat.min_le_left _ _)) hne
    fun text htext => (h text htext).mono (Nat.min_le_right _ _)

theorem stands_call {func inner : String} (hfunc : Stands least func) (h : Sealed inner) :
    Stands (min Level.access least) (func ++ "(" ++ inner ++ ")") := by
  have hgroup : Stands Level.access ("(" ++ inner ++ ")") := h.stands_group.mono (by decide)
  refine stands_respelled ((hfunc.mono (Nat.min_le_right _ _)).append
    (hgroup.mono (Nat.min_le_left _ _))) ?_
  simp

theorem stands_dialect_call {func : String} {args : List String} (hfunc : Stands least func)
    (h : ∀ text ∈ args, Sealed text) :
    Stands (min Level.access least) (dialect.call func args) := by
  have hplain := stands_call hfunc (codeLaw_sealed.commaList h)
  rw [Dialect.call.eq_def]
  cases dialect with
  | cpp => exact hplain
  | typeScript typed =>
      dsimp only
      split
      · have hle : min Level.access least ≤ Level.primary :=
          Nat.le_trans (Nat.min_le_left _ _) (by decide)
        have hnew : Stands (min Level.access least) "new" :=
          stands_word (by decide) (by decide) hle
        have hblank : Exposes Level.primary " " := exposes_primary (by decide)
        exact stands_respelled (hnew.between (hblank.mono hle) hplain) (by simp)
      · exact hplain

theorem stands_sequence (kind : SequenceKind) {elements : List String}
    (h : ∀ text ∈ elements, Sealed text) :
    Stands Level.primary (dialect.sequence kind elements) := by
  have hlist := codeLaw_sealed.commaList h
  rw [Dialect.sequence.eq_def]
  split
  · exact hlist.stands_braces
  · have hnew : Stands Level.primary "new" := stands_word (by decide) (by decide) (by decide)
    have hset : Stands Level.primary "Set" := stands_word (by decide) (by decide) (by decide)
    have hblank : Exposes Level.primary " " := exposes_primary (by decide)
    have harguments := (codeLaw_sealed.index hlist).stands_group
    refine stands_respelled ((hnew.between hblank hset).append harguments) ?_
    simp
  · exact hlist.stands_index

theorem stands_dict {pairs : List (String × String)}
    (h : ∀ pair ∈ pairs, Sealed pair.1 ∧ Sealed pair.2) :
    Stands Level.primary (dialect.dict pairs) := by
  rw [Dialect.dict]
  refine Loop.Sealed.stands_braces (codeLaw_sealed.commaList fun text htext => ?_)
  obtain ⟨pair, hpair, rfl⟩ := List.mem_map.mp htext
  obtain ⟨hkey, hvalue⟩ := h pair hpair
  cases dialect with
  | cpp =>
      simpa [String.append_assoc] using
        codeLaw_sealed.braces (codeLaw_sealed.between hkey ", " hvalue rfl)
  | typeScript typed => exact codeLaw_sealed.between hkey ": " hvalue rfl

/-- A single comparison stands as it is. -/
theorem stands_comparison {left right : String} (op : CompareOp) (hleft : Stands least left)
    (hright : Stands least right) :
    Stands (min (Operator.compare op).level least)
      (dialect.compare left [(.compare op, right)]) := by
  have hop : Exposes (Operator.compare op).level (" " ++ dialect.operator (.compare op) ++ " ") :=
    exposes_of_separates (Operator.level_le_primary _) (separates_compare dialect op)
  refine stands_respelled ((hleft.mono (Nat.min_le_right _ _)).between
    (hop.mono (Nat.min_le_left _ _)) (hright.mono (Nat.min_le_right _ _))) ?_
  simp [Dialect.compare, Dialect.links]

/-- A chain stands in parentheses. -/
theorem stands_chain {left : String} {first second : Operator × String}
    {rest : List (Operator × String)} (hleft : Sealed left)
    (h : ∀ link ∈ first :: second :: rest,
      Sealed (" " ++ dialect.operator link.1 ++ " ") ∧ Sealed link.2) :
    Stands Level.primary (dialect.compare left (first :: second :: rest)) := by
  have hlinks := codeLaw_sealed.links hleft h
  have hjoined : Sealed (" && ".intercalate (dialect.links left (first :: second :: rest))) :=
    codeLaw_sealed.intercalate (codeLaw_sealed.plain rfl) hlinks
  exact hjoined.stands_group

theorem stands_conditional {test body orelse : String} (h₁ : Stands Level.conditional test)
    (h₂ : Stands Level.conditional body) (h₃ : Stands Level.conditional orelse) :
    Stands Level.conditional (Dialect.conditional test body orelse) := by
  have hsigns : separates Level.conditional " ?" = true ∧
      separates Level.conditional " :" = true := by decide +kernel
  have hthen : Exposes Level.conditional (" ?" ++ " ") :=
    exposes_of_separates (by decide) hsigns.1
  have helse : Exposes Level.conditional (" :" ++ " ") :=
    exposes_of_separates (by decide) hsigns.2
  exact (h₁.between hthen h₂).between helse h₃

theorem stands_slice {value text : String} {bounds : Bounds} (hvalue : Stands least value)
    (hstart : ∀ text ∈ bounds.start, Sealed text) (hstop : ∀ text ∈ bounds.stop, Sealed text)
    (h : dialect.slice? value bounds = some text) : Stands (min Level.access least) text := by
  obtain ⟨start, stop, step⟩ := bounds
  cases dialect with
  | cpp => simp [Dialect.slice?] at h
  | typeScript typed =>
      have hfirst : Sealed (start.getD "undefined") := by
        cases start with
        | none => exact codeLaw_sealed.plain rfl
        | some text => exact hstart text rfl
      have hle : min Level.access least ≤ Level.primary :=
        Nat.le_trans (Nat.min_le_left _ _) (by decide)
      have hslice : Stands (min Level.access least) (value ++ ".slice") :=
        (hvalue.mono (Nat.min_le_right _ _)).append (stands_word (by decide) (by decide) hle)
      cases step with
      | some step => simp [Dialect.slice?] at h
      | none =>
          cases stop with
          | none =>
              obtain rfl := Option.some.inj h
              refine stands_respelled (hslice.append (hfirst.stands_group.mono hle)) ?_
              simp
          | some last =>
              obtain rfl := Option.some.inj h
              have hboth := codeLaw_sealed.between hfirst ", " (hstop last rfl) rfl
              refine stands_respelled (hslice.append (hboth.stands_group.mono hle)) ?_
              simp

theorem stands_subscript {value index : String} (hvalue : Stands least value)
    (hindex : Sealed index) : Stands (min Level.access least) (Target.subscript value index) := by
  refine stands_respelled ((hvalue.mono (Nat.min_le_right _ _)).append
    (hindex.stands_index.mono (Nat.le_trans (Nat.min_le_left _ _) (by decide)))) ?_
  simp [Target.subscript]

theorem stands_spread (h : Stands least text) :
    Stands (min Level.access least) ("..." ++ text) := by
  have hdots : Stands Level.access "..." := stands_word (by decide) (by decide) (by decide)
  exact (hdots.mono (Nat.min_le_left _ _)).append (h.mono (Nat.min_le_right _ _))

end Forms

/-! ### Expressions -/

theorem Agrees.and {dialect : Dialect} {α : Type} {Good Better : α → Prop}
    {family : BraceStyle → Except Rejection α} (h₁ : Agrees dialect Good family)
    (h₂ : Agrees dialect Better family) : Agrees dialect (fun a => Good a ∧ Better a) family := by
  rcases h₁ with ⟨a, hgood, hok⟩ | ⟨node, herror⟩
  · rcases h₂ with ⟨b, hbetter, hok'⟩ | ⟨node, herror⟩
    · obtain rfl : a = b := Except.ok.inj ((hok .kAndR).symm.trans (hok' .kAndR))
      exact .inl ⟨a, ⟨hgood, hbetter⟩, hok⟩
    · exact nomatch (hok .kAndR).symm.trans (herror .kAndR)
  · exact .inr ⟨node, herror⟩

section Expressions

variable {dialect : Dialect} {around : Surroundings} {asType : Bool}

/-- What is rendered of clear leaves can stand in brackets. -/
theorem Expr.render_sealed (expr : Expr) (h : ∀ leaf ∈ expr.leaves, LeafIsClear leaf) :
    Agrees dialect Sealed fun style => expr.render (.curly dialect style) around asType :=
  Expr.render_agrees codeLaw_sealed expr fun leaf hleaf => (h leaf hleaf).fits_sealed dialect

theorem Expr.renderAll_sealed (exprs : List Expr)
    (h : ∀ leaf ∈ Expr.leavesAll exprs, LeafIsClear leaf) :
    Agrees dialect (fun texts => ∀ text ∈ texts, Sealed text) fun style =>
      Expr.renderAll (.curly dialect style) around asType exprs :=
  Expr.renderAll_agrees codeLaw_sealed exprs fun leaf hleaf => (h leaf hleaf).fits_sealed dialect

theorem Expr.renderLinks_single (op : CompareOp) (right : Expr)
    (h : Agrees dialect (fun text => Sealed text ∧ Stands right.bond text) fun style =>
      right.render (.curly dialect style) around asType) :
    Agrees dialect
      (fun rest => ∃ text, rest = [(Operator.compare op, text)] ∧
        Stands (within right.strength (Strength.comparison + 1) right.bond) text)
      fun style => Expr.renderLinks (.curly dialect style) around asType [op] [right] := by
  simp only [Expr.renderLinks]
  refine h.bind fun text htext => ?_
  exact .same (fun _ => rfl) ⟨_, rfl, stands_operand htext.1 htext.2 _ _⟩

theorem Expr.renderLinks_several {first second : CompareOp} {ops : List CompareOp}
    {third fourth : Expr} {comparators : List Expr}
    (h : ∀ leaf ∈ Expr.leavesAll (third :: fourth :: comparators), LeafIsClear leaf) :
    Agrees dialect
      (fun rest => (∀ link ∈ rest, Sealed (" " ++ dialect.operator link.1 ++ " ") ∧ Sealed link.2) ∧
        ∃ link next more, rest = link :: next :: more)
      fun style => Expr.renderLinks (.curly dialect style) around asType (first :: second :: ops)
        (third :: fourth :: comparators) := by
  have hfits : ∀ leaf ∈ Expr.leavesAll (third :: fourth :: comparators),
      leaf.Fits dialect Sealed fun _ => True := fun leaf hleaf => (h leaf hleaf).fits_sealed dialect
  refine (Expr.renderLinks_agrees codeLaw_sealed _ _ hfits).and ?_
  obtain ⟨hthird, hrest⟩ := List.forall_mem_append.mp hfits
  obtain ⟨hfourth, hothers⟩ := List.forall_mem_append.mp hrest
  simp only [Expr.renderLinks]
  refine (Expr.render_agrees codeLaw_sealed third hthird).bind fun text _ => ?_
  have hothers : Agrees dialect (fun rest => ∃ next more, rest = next :: more) fun style =>
      Expr.renderLinks (.curly dialect style) around asType (second :: ops)
        (fourth :: comparators) := by
    simp only [Expr.renderLinks]
    refine (Expr.render_agrees codeLaw_sealed fourth hfourth).bind fun other _ => ?_
    refine (Expr.renderLinks_agrees codeLaw_sealed ops comparators hothers).bind fun links _ => ?_
    exact .same (fun _ => rfl) ⟨_, _, rfl⟩
  simp only [Expr.renderLinks] at hothers
  refine hothers.bind ?_
  rintro rest ⟨next, more, rfl⟩
  exact .same (fun _ => rfl) ⟨_, _, _, rfl⟩

mutual

theorem Expr.render_stands : (expr : Expr) → expr.wellFormed = true →
    (∀ leaf ∈ expr.leaves, LeafIsClear leaf) →
    Agrees dialect (Stands expr.bond) fun style => expr.render (.curly dialect style) around asType
  | .constant value, _, _ => by
      simp only [Expr.render, Expr.bond]
      exact .ok (stands_constant dialect value asType)
  | .name ident, _, h => by
      simp only [Expr.render, Expr.bond]
      exact .ok (stands_name (h (.name ident) List.mem_cons_self) around)
  | .member value attr, hwell, h => by
      rw [Expr.wellFormed] at hwell
      obtain ⟨hattr, hvalue⟩ := List.forall_mem_cons.mp h
      simp only [Expr.render, Expr.bond]
      refine ((Expr.render_sealed value hvalue).and
        (Expr.render_stands value hwell hvalue)).bind fun object hobject => ?_
      exact .same (fun _ => rfl) (stands_member (stands_atom hobject.1 hobject.2) hattr)
  | .unary op operand, hwell, h => by
      rw [Expr.wellFormed] at hwell
      simp only [Expr.render, Expr.bond]
      refine ((Expr.render_sealed operand h).and
        (Expr.render_stands operand hwell h)).bind fun text htext => ?_
      exact .same (fun _ => rfl) (stands_unary op (stands_operand htext.1 htext.2 _ _))
  | .binary left op right, hwell, h => by
      rw [Expr.wellFormed, Bool.and_eq_true] at hwell
      obtain ⟨hleft, hright⟩ := List.forall_mem_append.mp (List.forall_mem_cons.mp h).2
      simp only [Expr.render, Expr.bond]
      refine ((Expr.render_sealed left hleft).and
        (Expr.render_stands left hwell.1 hleft)).bind fun first hfirst => ?_
      refine ((Expr.render_sealed right hright).and
        (Expr.render_stands right hwell.2 hright)).bind fun second hsecond => ?_
      refine .same (fun _ => rfl) (stands_infixed (by simp) (separates_binary dialect op) ?_)
      refine List.forall_mem_cons.mpr ⟨?_, List.forall_mem_singleton.mpr ?_⟩
      · exact (stands_operand hfirst.1 hfirst.2 _ _).mono (Nat.min_le_left _ _)
      · exact (stands_operand hsecond.1 hsecond.2 _ _).mono (Nat.min_le_right _ _)
  | .bool op values, hwell, h => by
      rw [Expr.wellFormed, Bool.and_eq_true, decide_eq_true_eq] at hwell
      have hne : values ≠ [] := by
        rintro rfl
        exact absurd hwell.1 (by decide)
      simp only [Expr.render, Expr.bond]
      refine (Expr.renderOperands_stands (.bool op) _ values hwell.2 h).bind fun texts htexts => ?_
      exact .same (fun _ => rfl)
        (stands_infixed (htexts.1 hne) (separates_bool dialect op) htexts.2)
  | .call func args, hwell, h => by
      rw [Expr.wellFormed, Bool.and_eq_true] at hwell
      obtain ⟨hfunc, hargs⟩ := List.forall_mem_append.mp h
      simp only [Expr.render, Expr.bond]
      refine ((Expr.render_sealed func hfunc).and
        (Expr.render_stands func hwell.1 hfunc)).bind fun callee hcallee => ?_
      refine (Expr.renderAll_sealed args hargs).bind fun texts htexts => ?_
      refine .accept (fun _ => rfl) fun text htext => ?_
      obtain rfl := Option.some.inj htext
      exact stands_dialect_call (stands_atom hcallee.1 hcallee.2) htexts
  | .tuple elements, _, h => by
      simp only [Expr.render, Expr.bond]
      refine (Expr.renderAll_sealed elements h).bind fun texts htexts => ?_
      refine .accept (fun _ => rfl) fun text htext => ?_
      obtain rfl := Option.some.inj htext
      exact stands_sequence .tuple htexts
  | .list elements, _, h => by
      simp only [Expr.render, Expr.bond]
      refine (Expr.renderAll_sealed elements h).bind fun texts htexts => ?_
      refine .accept (fun _ => rfl) fun text htext => ?_
      obtain rfl := Option.some.inj htext
      exact stands_sequence .list htexts
  | .set elements, _, h => by
      simp only [Expr.render, Expr.bond]
      refine (Expr.renderAll_sealed elements h).bind fun texts htexts => ?_
      refine .accept (fun _ => rfl) fun text htext => ?_
      obtain rfl := Option.some.inj htext
      exact stands_sequence .set htexts
  | .dict pairs, _, h => by
      have hfits : ∀ leaf ∈ Expr.leavesPairs pairs, leaf.Fits dialect Sealed fun _ => True :=
        fun leaf hleaf => (h leaf hleaf).fits_sealed dialect
      simp only [Expr.render, Expr.bond]
      refine (Expr.renderPairs_agrees codeLaw_sealed pairs hfits).bind fun texts htexts => ?_
      refine .accept (fun _ => rfl) fun text htext => ?_
      obtain rfl := Option.some.inj htext
      exact stands_dict htexts
  | .compare left [] comparators, _, _ => by
      simp only [Expr.render]
      exact .error _
  | .compare left [op] [right], hwell, h => by
      simp only [Expr.wellFormed, Expr.wellFormedAll, Bool.and_eq_true] at hwell
      obtain ⟨hleft, hright⟩ := List.forall_mem_append.mp h
      simp only [Expr.leavesAll, List.append_nil] at hright
      simp only [Expr.render, Expr.bond]
      refine ((Expr.render_sealed left hleft).and
        (Expr.render_stands left hwell.2.1 hleft)).bind fun first hfirst => ?_
      refine (Expr.renderLinks_single op right ((Expr.render_sealed right hright).and
        (Expr.render_stands right hwell.2.2.1 hright))).bind ?_
      rintro rest ⟨second, rfl, hsecond⟩
      refine .same (fun _ => rfl) (stands_comparison op ?_ (hsecond.mono (Nat.min_le_right _ _)))
      exact (stands_operand hfirst.1 hfirst.2 _ _).mono (Nat.min_le_left _ _)
  | .compare left (first :: second :: ops) (third :: fourth :: comparators), hwell, h => by
      obtain ⟨hleft, hcomparators⟩ := List.forall_mem_append.mp h
      simp only [Expr.render, Expr.bond]
      refine (Expr.render_sealed left hleft).bind fun text htext => ?_
      refine (Expr.renderLinks_several hcomparators).bind ?_
      rintro rest ⟨hlinks, link, next, more, rfl⟩
      exact .same (fun _ => rfl) (stands_chain (codeLaw_sealed.operand htext _ _ _ _) hlinks)
  | .compare _ [_] [], hwell, _ | .compare _ [_] (_ :: _ :: _), hwell, _
  | .compare _ (_ :: _ :: _) [], hwell, _ | .compare _ (_ :: _ :: _) [_], hwell, _ => by
      simp [Expr.wellFormed] at hwell
  | .conditional test body orelse, hwell, h => by
      simp only [Expr.wellFormed, Bool.and_eq_true] at hwell
      obtain ⟨hboth, horelse⟩ := List.forall_mem_append.mp h
      obtain ⟨htest, hbody⟩ := List.forall_mem_append.mp hboth
      simp only [Expr.render, Expr.bond]
      refine ((Expr.render_sealed test htest).and
        (Expr.render_stands test hwell.1.1 htest)).bind fun testText htestText => ?_
      refine ((Expr.render_sealed body hbody).and
        (Expr.render_stands body hwell.1.2 hbody)).bind fun bodyText hbodyText => ?_
      refine ((Expr.render_sealed orelse horelse).and
        (Expr.render_stands orelse hwell.2 horelse)).bind fun orelseText horelseText => ?_
      refine .accept (fun _ => rfl) fun text htext => ?_
      obtain rfl := Option.some.inj htext
      exact stands_conditional (stands_choice htestText.1 htestText.2)
        (stands_choice hbodyText.1 hbodyText.2) (stands_choice horelseText.1 horelseText.2)
  | .subscript value index, hwell, h => by
      rw [Expr.wellFormed, Bool.and_eq_true] at hwell
      obtain ⟨hvalue, hindex⟩ := List.forall_mem_append.mp h
      have hsealed : Agrees dialect Sealed fun style =>
          value.render (.curly dialect style) around asType := Expr.render_sealed value hvalue
      have hboth := hsealed.and (Expr.render_stands value hwell.1 hvalue)
      cases index with
      | slice lower upper step =>
          rw [Expr.leaves] at hindex
          have hfits : ∀ leaf ∈ (Expr.leavesOptional lower ++ Expr.leavesOptional upper) ++
              Expr.leavesOptional step, leaf.Fits dialect Sealed fun _ => True :=
            fun leaf hleaf => (hindex leaf hleaf).fits_sealed dialect
          obtain ⟨hbounds, hstep⟩ := List.forall_mem_append.mp hfits
          obtain ⟨hlower, hupper⟩ := List.forall_mem_append.mp hbounds
          simp only [Expr.render, Expr.bond]
          refine hboth.bind fun text htext => ?_
          refine (Expr.renderOptional_agrees codeLaw_sealed lower hlower).bind ?_
          intro start hstart
          refine (Expr.renderOptional_agrees codeLaw_sealed upper hupper).bind fun stop hstop => ?_
          refine (Expr.renderOptional_agrees codeLaw_sealed step hstep).bind fun stride _ => ?_
          exact .accept (fun _ => rfl) fun _ hform =>
            stands_slice (stands_atom htext.1 htext.2) hstart hstop hform
      | _ =>
          refine hboth.bind fun text htext => ?_
          refine (Expr.render_sealed _ hindex).bind fun indexText hindexText => ?_
          exact .same (fun _ => rfl)
            (stands_subscript (stands_atom htext.1 htext.2) hindexText)
  | .slice lower upper step, _, _ => by
      simp only [Expr.render]
      exact .error _
  | .starred value, hwell, h => by
      rw [Expr.wellFormed] at hwell
      simp only [Expr.render, Expr.bond]
      refine ((Expr.render_sealed value h).and
        (Expr.render_stands value hwell h)).bind fun text htext => ?_
      refine .accept (fun _ => rfl) fun form hform => ?_
      obtain rfl := Option.some.inj hform
      exact stands_spread (stands_atom htext.1 htext.2)
  | .matchValue value, hwell, _ => by cases hwell
  | .matchAs binder, hwell, _ => by cases hwell

theorem Expr.renderOperands_stands (op : Operator) (asked : Nat) : (exprs : List Expr) →
    Expr.wellFormedAll exprs = true → (∀ leaf ∈ Expr.leavesAll exprs, LeafIsClear leaf) →
    Agrees dialect
      (fun texts => (exprs ≠ [] → texts ≠ []) ∧
        ∀ text ∈ texts, Stands (Expr.bondAll asked exprs) text)
      fun style => Expr.renderOperands (.curly dialect style) around asType op asked exprs
  | [], _, _ => by
      simp only [Expr.renderOperands]
      exact .ok ⟨absurd rfl, by simp⟩
  | expr :: rest, hwell, h => by
      rw [Expr.wellFormedAll, Bool.and_eq_true] at hwell
      obtain ⟨hexpr, hrest⟩ := List.forall_mem_append.mp h
      simp only [Expr.renderOperands, Expr.bondAll]
      refine ((Expr.render_sealed expr hexpr).and
        (Expr.render_stands expr hwell.1 hexpr)).bind fun text htext => ?_
      refine (Expr.renderOperands_stands op asked rest hwell.2 hrest).bind fun texts htexts => ?_
      refine .same (fun _ => rfl) ⟨fun _ => List.cons_ne_nil _ _, List.forall_mem_cons.mpr ⟨?_, ?_⟩⟩
      · exact (stands_operand htext.1 htext.2 _ _).mono (Nat.min_le_left _ _)
      · exact fun other hother => (htexts.2 other hother).mono (Nat.min_le_right _ _)

end

end Expressions

end Snippet
