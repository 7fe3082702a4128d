import Snippet.Proofs.Formula.Grammar
import Snippet.Render.Expr

/-!
# Grouping keeps the tree

The text of an expression in a language with braces, read back with the levels of the snippet
language, gives the expression again, except that a chain of comparisons has become the conjunction of
its links. Every operand is shown at the level that its place asks for: it binds as tightly, or it
stands in parentheses.
-/

namespace Snippet

open Formula Render

def binaries (ops : List (String × BinaryOp)) : Level :=
  .left (ops.map fun (sign, op) => (sign, fun left right => .binary left op right))

def arithmeticPrefixes : List (String × UnaryOp) := [("~", .invert), ("+", .plus), ("-", .minus)]

/-- The operators of the snippet language, the loosest first, in the spelling of the languages with
braces. -/
def snippetGrammar : Grammar where
  levels := [
    .choice,
    .run "||" .or,
    .run "&&" .and,
    .before [("!", .not)],
    .chain [("==", .equal), ("!=", .notEqual), ("<", .less), ("<=", .lessEqual), (">", .greater),
      (">=", .greaterEqual), ("<in>", .isIn), ("<not in>", .notIn)],
    binaries [("|", .bitOr)],
    binaries [("^", .bitXor)],
    binaries [("&", .bitAnd)],
    binaries [("<<", .leftShift), (">>", .rightShift)],
    binaries [("+", .add), ("-", .sub)],
    binaries [("*", .mult), ("/", .div), ("//", .floorDiv), ("%", .mod)],
    .before arithmeticPrefixes,
    .power arithmeticPrefixes "**"]
  signs := [".", "(", ")", "[", "]", ",", "?", ":", "||", "&&", "!", "==", "!=", "<", "<=", ">", ">=",
    "<in>", "<not in>", "|", "^", "&", "<<", ">>", "+", "-", "*", "/", "//", "%", "~", "**"]
  distinct := by decide
  closers := by decide
  unopened := by decide
  punctuates := by decide
  separates := by decide
  groups := by decide

example : snippetGrammar.read? "a - b - c" =
    some (.binary (.binary (.name "a") .sub (.name "b")) .sub (.name "c")) := by cbv

example : snippetGrammar.read? "-a ** -b ** c" =
    some (.unary .minus (.binary (.name "a") .pow
      (.unary .minus (.binary (.name "b") .pow (.name "c"))))) := by cbv

namespace Expr

def links (left : Expr) : List CompareOp → List Expr → List Expr
  | op :: ops, right :: rest => .comparison left op right :: links right ops rest
  | _, _ => []

def conjunction : List Expr → Expr
  | [link] => link
  | links => .bool .and links

mutual

/-- An expression with the conjunction of its links in place of every chain of comparisons; forms
without an operator, a call, a member or an index at the top stay as they are. -/
def chainsExpanded : Expr → Expr
  | .member value attr => .member value.chainsExpanded attr
  | .unary op operand => .unary op operand.chainsExpanded
  | .binary left op right => .binary left.chainsExpanded op right.chainsExpanded
  | .bool op values => .bool op (chainsExpandedAll values)
  | .compare left ops comparators =>
    conjunction (links left.chainsExpanded ops (chainsExpandedAll comparators))
  | .conditional test body orelse =>
    .conditional test.chainsExpanded body.chainsExpanded orelse.chainsExpanded
  | .call func args => .call func.chainsExpanded (chainsExpandedAll args)
  | .subscript value index => .subscript value.chainsExpanded index.chainsExpanded
  | expr => expr

def chainsExpandedAll : List Expr → List Expr
  | [] => []
  | expr :: rest => expr.chainsExpanded :: chainsExpandedAll rest

end

/-- An expression whose names keep their spelling and whose operators have a spelling each. A
comparison has as many operators as comparators. -/
inductive Plain (dialect : Dialect) (around : Surroundings) : Expr → Prop where
  | name {ident : String} (hword : IsWord ident) (hkept : dialect.name around ident = ident)
      (hthis : ident ≠ "this") : Plain dialect around (.name ident)
  | member {value : Expr} {attr : String} (h : Plain dialect around value) (hword : IsWord attr)
      (hkept : dialect.styledName attr = attr) (hmath : value ≠ .name "math") :
      Plain dialect around (.member value attr)
  | unary (op : UnaryOp) {operand : Expr} (h : Plain dialect around operand) :
      Plain dialect around (.unary op operand)
  | binary {left right : Expr} {op : BinaryOp} (hop : op ≠ .matMult)
      (h₁ : Plain dialect around left) (h₂ : Plain dialect around right) :
      Plain dialect around (.binary left op right)
  | bool (op : BoolOp) {values : List Expr} (hlength : 2 ≤ values.length)
      (h : ∀ value ∈ values, Plain dialect around value) : Plain dialect around (.bool op values)
  | compare {left : Expr} {ops : List CompareOp} {comparators : List Expr}
      (hops : ∀ op ∈ ops, op ≠ .is ∧ op ≠ .isNot) (hlength : comparators.length = ops.length)
      (hne : ops ≠ []) (h₁ : Plain dialect around left)
      (h₂ : ∀ comparator ∈ comparators, Plain dialect around comparator) :
      Plain dialect around (.compare left ops comparators)
  | conditional {test body orelse : Expr} (h₁ : Plain dialect around test)
      (h₂ : Plain dialect around body) (h₃ : Plain dialect around orelse) :
      Plain dialect around (.conditional test body orelse)
  | call {func : Expr} {args : List Expr} (h : Plain dialect around func)
      (hargs : ∀ arg ∈ args, Plain dialect around arg) : Plain dialect around (.call func args)
  | subscript {value index : Expr} (h₁ : Plain dialect around value)
      (h₂ : Plain dialect around index) : Plain dialect around (.subscript value index)

end Expr

namespace Expr

mutual

/-- An expression and its parts, down to those without an operator, a call, a member or an index at
the top. -/
def parts : Expr → List Expr
  | .member value attr => .member value attr :: value.parts
  | .unary op operand => .unary op operand :: operand.parts
  | .binary left op right => .binary left op right :: (left.parts ++ right.parts)
  | .bool op values => .bool op values :: partsAll values
  | .compare left ops comparators =>
    .compare left ops comparators :: (left.parts ++ partsAll comparators)
  | .conditional test body orelse =>
    .conditional test body orelse :: (test.parts ++ body.parts ++ orelse.parts)
  | .call func args => .call func args :: (func.parts ++ partsAll args)
  | .subscript value index => .subscript value index :: (value.parts ++ index.parts)
  | expr => [expr]

def partsAll : List Expr → List Expr
  | [] => []
  | expr :: rest => expr.parts ++ partsAll rest

end

theorem self_mem_parts (expr : Expr) : expr ∈ expr.parts := by
  cases expr <;> simp [parts]

theorem mem_partsAll {exprs : List Expr} {expr part : Expr} (hexpr : expr ∈ exprs)
    (hpart : part ∈ expr.parts) : part ∈ partsAll exprs := by
  induction exprs with
  | nil => simp at hexpr
  | cons first rest ih =>
      rw [partsAll, List.mem_append]
      rcases List.mem_cons.mp hexpr with rfl | hrest
      · exact .inl hpart
      · exact .inr (ih hrest)

end Expr

/-! ### Operands in their places -/

section Places

variable {grammar : Grammar} (dialect : Dialect) (style : Layout.BraceStyle) {expr tree : Expr}
  {text : String} {level place : Nat}

theorem shows_group (h : Shows grammar level text tree) (hlevel : level ≤ grammar.levels.length)
    (hplace : place ≤ grammar.levels.length) : Shows grammar place ("(" ++ text ++ ")") tree := by
  have hinner := h.antitone (Nat.zero_le _) hlevel
  exact (Shows.group List.drop_length hinner).antitone hplace (Nat.le_refl _)

theorem Operator.strength_lt_atom (op : Operator) : op.strength < Strength.atom := by
  cases op with
  | compare op => cases op <;> decide
  | binary op | unary op | bool op => cases op <;> decide

theorem Operator.strength_le_atom (op : Operator) : op.strength ≤ Strength.atom :=
  Nat.le_of_lt op.strength_lt_atom

theorem Expr.strength_le_atom (expr : Expr) : expr.strength ≤ Strength.atom := by
  cases expr with
  | bool op _ => exact (Operator.bool op).strength_le_atom
  | unary op _ => exact (Operator.unary op).strength_le_atom
  | binary _ op _ => exact (Operator.binary op).strength_le_atom
  | _ => simp [Expr.strength, Strength.atom, Strength.conditional, Strength.comparison]

/-- An operand without parentheses has to be read at its place as it is. -/
theorem shows_operand (op : Operator) {least : Nat} (hlevel : level ≤ grammar.levels.length)
    (hplace : place ≤ grammar.levels.length) (htight : least ≤ expr.strength → place ≤ level)
    (h : Shows grammar level text tree) :
    Shows grammar place (Target.operand (.curly dialect style) op least expr text) tree := by
  rw [Target.operand]
  by_cases hloose : expr.strength < least
  · rw [if_pos (by simpa [Target.groupsOperands] using hloose)]
    exact shows_group h hlevel hplace
  · rw [if_neg (by simpa [Target.groupsOperands] using hloose)]
    exact h.antitone (htight (Nat.not_lt.mp hloose)) hlevel

theorem shows_atom (hlevel : level ≤ grammar.levels.length)
    (htight : Strength.atom ≤ expr.strength → grammar.levels.length ≤ level)
    (h : Shows grammar level text tree) :
    Shows grammar grammar.levels.length (Target.atom (.curly dialect style) expr text) tree := by
  rw [Target.atom]
  by_cases hloose : expr.strength < Strength.atom
  · rw [if_pos hloose]
    exact shows_group h hlevel (Nat.le_refl _)
  · rw [if_neg hloose]
    exact h.antitone (htight (Nat.not_lt.mp hloose)) hlevel

/-- The parts of a conditional bind more tightly than a conditional. -/
theorem shows_choice (hlevel : level ≤ grammar.levels.length) (hplace : place ≤ grammar.levels.length)
    (htight : Strength.conditional < expr.strength → place ≤ level)
    (h : Shows grammar level text tree) :
    Shows grammar place (Target.choice (.curly dialect style) expr text) tree := by
  rw [Target.choice]
  by_cases hloose : expr.strength ≤ Strength.conditional
  · rw [if_pos hloose]
    exact shows_group h hlevel hplace
  · rw [if_neg hloose]
    exact h.antitone (htight (Nat.not_le.mp hloose)) hlevel

end Places

/-! ### Spellings -/

theorem eq_name_of_isWord {grammar : Grammar} {text : String} {tree : Expr}
    (h : Shows grammar grammar.levels.length text tree) (hword : IsWord text) : tree = .name text := by
  have hname : Shows grammar grammar.levels.length text (.name text) := .word List.drop_length hword
  have hread := (h.antitone (Nat.zero_le _) (Nat.le_refl _)).read?_eq
  rw [(hname.antitone (Nat.zero_le _) (Nat.le_refl _)).read?_eq] at hread
  exact (Option.some.inj hread).symm

theorem isUpper_eq_false_of_opensOperand {c : Char} (h : opensOperand c = true) :
    c.isUpper = false := by
  rw [opensOperand, isWordStart, Bool.or_eq_true] at h
  rcases h with hlower | hsign
  · have hbelow : 'a'.val ≤ c.val := of_decide_eq_true (Bool.and_eq_true_iff.mp hlower).1
    have habove : ¬('A'.val ≤ c.val ∧ c.val ≤ 'Z'.val) := fun hupper =>
      absurd (UInt32.le_trans hbelow hupper.2) (by decide)
    exact decide_eq_false habove
  · have hsigns : c = '(' ∨ c = '!' ∨ c = '~' ∨ c = '+' ∨ c = '-' := by simpa using hsign
    rcases hsigns with rfl | rfl | rfl | rfl | rfl <;> rfl

theorem isConstructor_eq_false {grammar : Grammar} {level : Nat} {text : String} {tree : Expr}
    (h : Shows grammar level text tree) : Dialect.isConstructor text = false := by
  obtain ⟨tokens, hspells, -⟩ := h
  obtain ⟨c, more, htext, hopens⟩ := hspells.opens
  rw [Dialect.isConstructor, htext]
  simp [isUpper_eq_false_of_opensOperand hopens]

theorem ne_empty_of_shows {grammar : Grammar} {level : Nat} {text : String} {tree : Expr}
    (h : Shows grammar level text tree) : text ≠ "" := by
  obtain ⟨tokens, hspells, -⟩ := h
  obtain ⟨c, more, htext, -⟩ := hspells.opens
  rintro rfl
  simp at htext

theorem member_eq (dialect : Dialect) {object attr : String} (hkept : dialect.styledName attr = attr)
    (hmath : object ≠ "math") (hthis : object ≠ "this") (hrenamed : object ≠ "Math") :
    dialect.member object attr = object ++ "." ++ attr := by
  cases dialect with
  | cpp =>
      rw [Dialect.member]
      · rw [hkept]
      all_goals simp_all
  | typeScript typed => simp [Dialect.member, hrenamed, hkept]

theorem intercalate_pair (between first second : String) :
    between.intercalate [first, second] = first ++ between ++ second := by
  rw [String.intercalate_cons_of_ne_nil (by simp), String.intercalate_singleton]

theorem links_ne_singleton_name (tree : Expr) (ops : List CompareOp) (trees : List Expr)
    (ident : String) : Expr.links tree ops trees ≠ [.name ident] := by
  cases ops <;> cases trees <;> simp [Expr.links, Expr.comparison]

theorem eq_name_of_chainsExpanded_eq_name {expr : Expr} {ident : String}
    (h : expr.chainsExpanded = .name ident) : expr = .name ident := by
  cases expr with
  | compare left ops comparators =>
      rw [Expr.chainsExpanded, Expr.conjunction.eq_def] at h
      split at h
      · next link hlinks => exact absurd (h ▸ hlinks) (links_ne_singleton_name _ _ _ _)
      · cases h
  | name found => simpa [Expr.chainsExpanded] using h
  | _ => simp [Expr.chainsExpanded] at h

theorem eq_name_of_shows_atom {grammar : Grammar} {value : Expr} {text ident : String}
    (h : Shows grammar grammar.levels.length text value.chainsExpanded) (htext : text = ident)
    (hword : IsWord ident) : value = .name ident := by
  subst htext
  exact eq_name_of_chainsExpanded_eq_name (eq_name_of_isWord h hword)

theorem length_chainsExpandedAll (exprs : List Expr) :
    (Expr.chainsExpandedAll exprs).length = exprs.length := by
  induction exprs with
  | nil => rfl
  | cons expr rest ih => rw [Expr.chainsExpandedAll, List.length_cons, ih, List.length_cons]

/-- What the text of an expression that stands without parentheses in a tight place can begin with:
the sign of a unary expression, and otherwise a word or a parenthesis. -/
def Expr.Leads (expr : Expr) (text : String) : Prop :=
  ∀ c ∈ text.toList.head?,
    match expr with
    | .unary op _ => (Operator.unary op).curlySpelling.toList.head? = some c
    | expr => Strength.atom ≤ expr.strength → isWordStart c = true ∨ c = '('

theorem Expr.leads_of_loose {expr : Expr} (hunary : ∀ op operand, expr ≠ .unary op operand)
    (hloose : expr.strength < Strength.atom) (text : String) : expr.Leads text := by
  intro c _
  cases expr with
  | unary op operand => exact absurd rfl (hunary op operand)
  | _ => exact fun htight => absurd hloose (Nat.not_lt.mpr htight)

/-- What comes after the object of a member, a call or an index does not change its first
character. -/
theorem Expr.leads_atom (dialect : Dialect) (style : Layout.BraceStyle) {value expr : Expr}
    {text : String} (hne : text ≠ "") (h : value.Leads text) (rest : String)
    (hunary : ∀ op operand, expr ≠ .unary op operand) :
    expr.Leads (Target.atom (.curly dialect style) value text ++ rest) := by
  intro c hc
  have hfirst : isWordStart c = true ∨ c = '(' := by
    rw [Target.atom] at hc
    by_cases hloose : value.strength < Strength.atom
    · rw [if_pos hloose] at hc
      exact .inr (by simpa [Target.group] using hc.symm)
    · rw [if_neg hloose] at hc
      have htext : c ∈ text.toList.head? := by
        cases hchars : text.toList with
        | nil => exact absurd (String.toList_injective (by simpa using hchars)) hne
        | cons d more => simpa [hchars] using hc
      have hlead := h c htext
      cases value with
      | unary op operand =>
          exact absurd (Operator.unary op).strength_lt_atom hloose
      | _ => exact hlead (Nat.not_lt.mp hloose)
  cases expr with
  | unary op operand => exact absurd rfl (hunary op operand)
  | _ => exact fun _ => hfirst

/-! ### Grammars that read renderings back -/

/-- A grammar takes the text of an expression of each strength to be of a level, and it reads the
nodes of a kind back from their parts. Operands of comparisons stand at one place. -/
structure Readback (grammar : Grammar) (rank : Nat → Nat) (place : Nat) (Kind : Expr → Prop)
    (dialect : Dialect) (style : Layout.BraceStyle) : Prop where
  rank_le : ∀ strength ≤ Strength.atom, rank strength ≤ grammar.levels.length
  rank_atom : rank Strength.atom = grammar.levels.length
  rank_choice : rank Strength.conditional = 0
  choice : grammar.levels.drop 0 = .choice :: grammar.levels.drop 1
  rank_pos : ∀ strength ≤ Strength.atom, Strength.conditional < strength → 1 ≤ rank strength
  run (op : BoolOp) : grammar.levels.drop (rank (Operator.bool op).strength) =
    .run (Operator.bool op).curlySpelling op ::
      grammar.levels.drop (rank (Operator.bool op).strength + 1)
  run_lt (op : BoolOp) : ∀ strength ≤ Strength.atom, (Operator.bool op).strength < strength →
    rank (Operator.bool op).strength < rank strength
  place_le : place ≤ grammar.levels.length
  comparand {left operand : Expr} {ops : List CompareOp} {comparators : List Expr}
    (h : Kind (.compare left ops comparators)) (hoperand : operand ∈ left :: comparators)
    (htight : Strength.comparison < operand.strength) : place ≤ rank operand.strength
  comparison {left : Expr} {ops : List CompareOp} {comparators : List Expr} {op : CompareOp}
    {first second : String} {tree other : Expr} (h : Kind (.compare left ops comparators))
    (hop : op ∈ ops) (his : op ≠ .is ∧ op ≠ .isNot) (h₁ : Shows grammar place first tree)
    (h₂ : Shows grammar place second other) :
    Shows grammar (rank Strength.comparison)
      (first ++ (" " ++ (Operator.compare op).curlySpelling ++ " ") ++ second)
      (.comparison tree op other)
  unary {op : UnaryOp} {operand tree : Expr} {text : String} (h : Kind (.unary op operand))
    (hoperand : Kind operand) (hlead : operand.Leads text)
    (hshows : Shows grammar (rank operand.strength) text tree) :
    Shows grammar (rank (Operator.unary op).strength)
      ((Operator.unary op).curlySpelling ++
        Target.operand (.curly dialect style) (.unary op) Strength.unary operand text)
      (.unary op tree)
  binary {left right tree other : Expr} {op : BinaryOp} {first second : String}
    (h : Kind (.binary left op right)) (hop : op ≠ .matMult)
    (h₁ : Shows grammar (rank left.strength) first tree)
    (h₂ : Shows grammar (rank right.strength) second other) :
    Shows grammar (rank op.strength)
      (Target.operand (.curly dialect style) (.binary op) op.leastStrengths.1 left first ++
        (" " ++ (Operator.binary op).curlySpelling ++ " ") ++
        Target.operand (.curly dialect style) (.binary op) op.leastStrengths.2 right second)
      (.binary tree op other)

section Trees

variable {grammar : Grammar} {rank : Nat → Nat} {place : Nat} {Kind : Expr → Prop}
  {dialect : Dialect} {style : Layout.BraceStyle} {around : Surroundings} {asType : Bool}

/-- An expression is rendered, and its text, begun as its form has it, shows it with its chains
expanded at the level of its strength. -/
def ShownBy (grammar : Grammar) (rank : Nat → Nat) (dialect : Dialect) (style : Layout.BraceStyle)
    (around : Surroundings) (asType : Bool) (expr : Expr) : Prop :=
  ∃ text, expr.render (.curly dialect style) around asType = .ok text ∧ expr.Leads text ∧
    Shows grammar (rank expr.strength) text expr.chainsExpanded

namespace Readback

variable (readback : Readback grammar rank place Kind dialect style)

include readback

theorem rank_strength_le (expr : Expr) : rank expr.strength ≤ grammar.levels.length :=
  readback.rank_le _ expr.strength_le_atom

theorem shows_atom {expr tree : Expr} {text : String}
    (h : Shows grammar (rank expr.strength) text tree) :
    Shows grammar grammar.levels.length (Target.atom (.curly dialect style) expr text) tree := by
  refine Snippet.shows_atom dialect style (readback.rank_strength_le expr) (fun htight => ?_) h
  exact Nat.le_of_eq (by rw [Nat.le_antisymm expr.strength_le_atom htight, readback.rank_atom])

theorem exists_renderAll {exprs : List Expr}
    (h : ∀ expr ∈ exprs, ShownBy grammar rank dialect style around asType expr) :
    ∃ texts, Expr.renderAll (.curly dialect style) around asType exprs = .ok texts ∧
      List.Forall₂ (Shows grammar 0) texts (Expr.chainsExpandedAll exprs) := by
  induction exprs with
  | nil => exact ⟨[], rfl, .nil⟩
  | cons expr rest ih =>
      obtain ⟨text, hrender, -, hshows⟩ := h expr List.mem_cons_self
      obtain ⟨texts, hrest, hall⟩ := ih fun next hnext => h next (List.mem_cons_of_mem _ hnext)
      refine ⟨text :: texts, ?_, ?_⟩
      · rw [Expr.renderAll, hrender, hrest]
        rfl
      · exact .cons (hshows.antitone (Nat.zero_le _) (readback.rank_strength_le expr)) hall

theorem exists_renderOperands (op : Operator) {least level : Nat}
    (hlevel : level ≤ grammar.levels.length)
    (htight : ∀ strength ≤ Strength.atom, least ≤ strength → level ≤ rank strength)
    {exprs : List Expr} (h : ∀ expr ∈ exprs, ShownBy grammar rank dialect style around asType expr) :
    ∃ texts, Expr.renderOperands (.curly dialect style) around asType op least exprs = .ok texts ∧
      List.Forall₂ (Shows grammar level) texts (Expr.chainsExpandedAll exprs) := by
  induction exprs with
  | nil => exact ⟨[], rfl, .nil⟩
  | cons expr rest ih =>
      obtain ⟨text, hrender, -, hshows⟩ := h expr List.mem_cons_self
      obtain ⟨texts, hrest, hall⟩ := ih fun next hnext => h next (List.mem_cons_of_mem _ hnext)
      have hoperand := shows_operand dialect style op (readback.rank_strength_le expr) hlevel
        (htight _ expr.strength_le_atom) hshows
      refine ⟨_, ?_, .cons hoperand hall⟩
      rw [Expr.renderOperands, hrender, hrest]
      rfl

theorem shows_comparand {left operand tree : Expr} {ops : List CompareOp} {comparators : List Expr}
    {text : String} (h : Kind (.compare left ops comparators)) (op : Operator)
    (hoperand : operand ∈ left :: comparators)
    (hshows : Shows grammar (rank operand.strength) text tree) :
    Shows grammar place
      (Target.operand (.curly dialect style) op (Strength.comparison + 1) operand text) tree :=
  shows_operand dialect style op (readback.rank_strength_le operand) readback.place_le
    (readback.comparand h hoperand) hshows

theorem exists_renderLinks {left : Expr} {ops allOps : List CompareOp}
    {comparators allComparators : List Expr} {tree : Expr} {text : String}
    (hkind : Kind (.compare left allOps allComparators))
    (hops : ∀ op ∈ ops, op ∈ allOps ∧ op ≠ .is ∧ op ≠ .isNot)
    (hcomparators : ∀ expr ∈ comparators, expr ∈ allComparators)
    (hleft : Shows grammar place text tree)
    (h : ∀ expr ∈ comparators, ShownBy grammar rank dialect style around asType expr) :
    ∃ rest, Expr.renderLinks (.curly dialect style) around asType ops comparators = .ok rest ∧
      List.Forall₂ (Shows grammar (rank Strength.comparison)) (dialect.links text rest)
        (Expr.links tree ops (Expr.chainsExpandedAll comparators)) := by
  induction comparators generalizing ops text tree with
  | nil => cases ops <;> exact ⟨[], rfl, .nil⟩
  | cons expr rest ih =>
      cases ops with
      | nil => exact ⟨[], rfl, .nil⟩
      | cons op ops =>
          obtain ⟨exprText, hrender, -, hshows⟩ := h expr List.mem_cons_self
          obtain ⟨hmem, his⟩ := hops op List.mem_cons_self
          have hexpr := hcomparators expr List.mem_cons_self
          have hright :=
            readback.shows_comparand hkind (.compare op) (List.mem_cons_of_mem _ hexpr) hshows
          obtain ⟨others, hothers, hall⟩ :=
            ih (fun next hnext => hops next (List.mem_cons_of_mem _ hnext))
              (fun next hnext => hcomparators next (List.mem_cons_of_mem _ hnext)) hright
              fun next hnext => h next (List.mem_cons_of_mem _ hnext)
          refine ⟨(.compare op, Target.operand (.curly dialect style) (.compare op)
            (Strength.comparison + 1) expr exprText) :: others, ?_, .cons ?_ hall⟩
          · rw [Expr.renderLinks, hrender, hothers]
            rfl
          · rw [dialect.operator_eq_curlySpelling (by simpa using his.1) (by simpa using his.2)]
            have hlink := readback.comparison hkind hmem his hleft hright
            simpa [String.append_assoc] using hlink

/-- A single link is the comparison, and several are a conjunction in parentheses. -/
theorem shows_compare {text : String} {rest : List (Operator × String)} {trees : List Expr}
    (h : List.Forall₂ (Shows grammar (rank Strength.comparison)) (dialect.links text rest) trees)
    (hne : trees ≠ []) :
    Shows grammar (rank Strength.comparison) (dialect.compare text rest)
      (Expr.conjunction trees) := by
  have hcomparison : rank Strength.comparison ≤ grammar.levels.length :=
    readback.rank_le _ (by decide)
  rw [Dialect.compare.eq_def]
  generalize dialect.links text rest = links at h
  match h with
  | .nil => exact absurd rfl hne
  | .cons hlink .nil => exact hlink
  | .cons hfirst (.cons hsecond hothers) =>
      have htight := readback.run_lt .and Strength.comparison (by decide) (by decide)
      have hall := (List.Forall₂.cons hfirst (.cons hsecond hothers)).imp
        fun _ _ hlink => hlink.antitone htight hcomparison
      have hrun := Shows.run (readback.run .and) hall (by simp)
      exact shows_group hrun (readback.rank_le _ (by decide)) hcomparison

/-- A plain expression whose parts are all of the kind is shown by its text. -/
theorem shown {expr : Expr} (h : expr.Plain dialect around) (hkind : ∀ part ∈ expr.parts, Kind part) :
    ShownBy grammar rank dialect style around asType expr := by
  have hself : ∀ {expr : Expr}, (∀ part ∈ expr.parts, Kind part) → Kind expr :=
    fun h => h _ (Expr.self_mem_parts _)
  induction h with
  | @name ident hword hkept hthis =>
      have hshows : Shows grammar grammar.levels.length ident (.name ident) :=
        .word List.drop_length hword
      refine ⟨_, ?_, ?_, hshows.antitone (readback.rank_strength_le _) (Nat.le_refl _)⟩
      · rw [Expr.render, Target.nameText, hkept]
      · intro c hc _
        obtain ⟨first, more, htext, hstart, -⟩ := hword
        obtain rfl : first = c := by simpa [htext] using hc
        exact .inl hstart
  | @member value attr hvalue hword hkept hmath ih =>
      have hparts : ∀ part ∈ value.parts, Kind part := fun part hpart =>
        hkind part (by simp [Expr.parts, hpart])
      obtain ⟨text, hrender, hleads, hshows⟩ := ih hparts
      have hatom := readback.shows_atom hshows
      have hmember := Shows.member List.drop_length hatom hword
      refine ⟨Target.atom (.curly dialect style) value text ++ "." ++ attr, ?_, ?_,
        hmember.antitone (readback.rank_strength_le _) (Nat.le_refl _)⟩
      · rw [Expr.render, hrender]
        -- A text that reads like a name is that name, so no other object is taken for a renamed one.
        refine congrArg Except.ok (member_eq dialect hkept (fun htext => ?_) (fun htext => ?_) ?_)
        · exact hmath (eq_name_of_shows_atom hatom htext ⟨'m', _, rfl, rfl, rfl⟩)
        · cases eq_name_of_shows_atom hatom htext ⟨'t', _, rfl, rfl, rfl⟩
          cases hvalue
          contradiction
        · intro htext
          obtain ⟨tokens, hspells, -⟩ := hatom
          obtain ⟨c, more, hopens, hoperand⟩ := hspells.opens
          obtain rfl : 'M' = c := by
            rw [htext] at hopens
            exact (List.cons.inj hopens).1
          cases hoperand
      · rw [String.append_assoc]
        exact Expr.leads_atom dialect style (ne_empty_of_shows hshows) hleads _ (by simp)
  | @unary op operand _ ih =>
      have hparts : ∀ part ∈ operand.parts, Kind part := fun part hpart =>
        hkind part (by simp [Expr.parts, hpart])
      obtain ⟨text, hrender, hleads, hshows⟩ := ih hparts
      refine ⟨_, ?_, ?_, readback.unary (hself hkind) (hself hparts) hleads hshows⟩
      · rw [Expr.render, hrender]
        refine congrArg Except.ok ?_
        rw [Target.unary, dialect.operator_eq_curlySpelling (by simp) (by simp)]
      · intro c hc
        cases op <;> simpa [Operator.curlySpelling] using hc
  | @binary left right op hop _ _ ih₁ ih₂ =>
      obtain ⟨first, hfirst, -, hfirstShows⟩ := ih₁ fun part hpart =>
        hkind part (by simp [Expr.parts, hpart])
      obtain ⟨second, hsecond, -, hsecondShows⟩ := ih₂ fun part hpart =>
        hkind part (by simp [Expr.parts, hpart])
      refine ⟨_, ?_, Expr.leads_of_loose (by simp)
        (by cases op <;> simp [Expr.strength, BinaryOp.strength, Strength.atom]) _,
        readback.binary (hself hkind) hop hfirstShows hsecondShows⟩
      rw [Expr.render, hfirst, hsecond]
      refine congrArg Except.ok ?_
      rw [Target.infixed, intercalate_pair, dialect.operator_eq_curlySpelling (by simp) (by simp)]
      rfl
  | @bool op values hlength _ ih =>
      have hvalues : ∀ value ∈ values, ShownBy grammar rank dialect style around asType value :=
        fun value hvalue => ih value hvalue fun part hpart =>
          hkind part (List.mem_cons_of_mem _ (Expr.mem_partsAll hvalue hpart))
      have hlevel : rank (Operator.bool op).strength + 1 ≤ grammar.levels.length :=
        Nat.le_trans (readback.run_lt op _ (Nat.le_refl _) (by cases op <;> decide))
          (readback.rank_le _ (Nat.le_refl _))
      obtain ⟨texts, hrender, hall⟩ :=
        readback.exists_renderOperands (.bool op) hlevel (readback.run_lt op) hvalues
      refine ⟨_, ?_, Expr.leads_of_loose (by simp)
        (by cases op <;> simp [Expr.strength, Operator.strength, Strength.atom]) _,
        Shows.run (readback.run op) hall (by rwa [length_chainsExpandedAll])⟩
      rw [Expr.render, hrender]
      refine congrArg Except.ok ?_
      rw [Target.infixed, dialect.operator_eq_curlySpelling (by simp) (by simp)]
  | @compare left ops comparators hops hlength hne _ _ ih₁ ih₂ =>
      obtain ⟨text, hrender, -, hshows⟩ := ih₁ fun part hpart =>
        hkind part (by simp [Expr.parts, hpart])
      have hcomparators : ∀ comparator ∈ comparators,
          ShownBy grammar rank dialect style around asType comparator :=
        fun comparator hmem => ih₂ comparator hmem fun part hpart =>
          hkind part (List.mem_cons_of_mem _
            (List.mem_append_right _ (Expr.mem_partsAll hmem hpart)))
      cases ops with
      | nil => exact absurd rfl hne
      | cons op ops =>
          have hleft := readback.shows_comparand (hself hkind) (.compare op) List.mem_cons_self hshows
          obtain ⟨rest, hrest, hall⟩ := readback.exists_renderLinks (hself hkind)
            (fun next hnext => ⟨hnext, hops next hnext⟩) (fun _ hmem => hmem) hleft hcomparators
          refine ⟨_, ?_, Expr.leads_of_loose (by simp) (by simp [Expr.strength, Strength.comparison,
            Strength.atom]) _, readback.shows_compare hall ?_⟩
          · rw [Expr.render, hrender, hrest]
            rfl
          · cases comparators with
            | nil => cases hlength
            | cons comparator comparators => simp [Expr.links, Expr.chainsExpandedAll]
  | @conditional test body orelse _ _ _ ih₁ ih₂ ih₃ =>
      obtain ⟨testText, htest, -, htestShows⟩ := ih₁ fun part hpart =>
        hkind part (by simp [Expr.parts, hpart])
      obtain ⟨bodyText, hbody, -, hbodyShows⟩ := ih₂ fun part hpart =>
        hkind part (by simp [Expr.parts, hpart])
      obtain ⟨orelseText, horelse, -, horelseShows⟩ := ih₃ fun part hpart =>
        hkind part (by simp [Expr.parts, hpart])
      have hlength : 1 ≤ grammar.levels.length :=
        Nat.le_trans (readback.rank_pos _ (Nat.le_refl _) (by decide))
          (readback.rank_le _ (Nat.le_refl _))
      have hpart : ∀ {part tree : Expr} {text : String},
          Shows grammar (rank part.strength) text tree →
            Shows grammar 1 (Target.choice (.curly dialect style) part text) tree :=
        fun {part} _ _ hshows => shows_choice dialect style (readback.rank_strength_le part) hlength
          (readback.rank_pos _ part.strength_le_atom) hshows
      have hlast := (hpart horelseShows).antitone (Nat.zero_le 1) hlength
      have hconditional := Shows.conditional readback.choice (hpart htestShows) (hpart hbodyShows) hlast
      rw [← readback.rank_choice] at hconditional
      refine ⟨_, ?_, Expr.leads_of_loose (by simp) (by simp [Expr.strength, Strength.conditional,
        Strength.atom]) _, hconditional⟩
      rw [Expr.render, htest, hbody, horelse]
      rfl
  | @call func args _ _ ih ihargs =>
      obtain ⟨text, hrender, hleads, hshows⟩ := ih fun part hpart =>
        hkind part (by simp [Expr.parts, hpart])
      obtain ⟨texts, htexts, hall⟩ := readback.exists_renderAll fun arg harg =>
        ihargs arg harg fun part hpart =>
          hkind part (List.mem_cons_of_mem _
            (List.mem_append_right _ (Expr.mem_partsAll harg hpart)))
      have hatom := readback.shows_atom hshows
      have hcall := Shows.call List.drop_length hatom hall
      refine ⟨_, ?_, ?_, hcall.antitone (readback.rank_strength_le _) (Nat.le_refl _)⟩
      · rw [Expr.render, hrender, htexts]
        refine congrArg Except.ok ?_
        cases dialect with
        | cpp => rfl
        | typeScript typed => simp [Dialect.call, isConstructor_eq_false hatom, commaList]
      · rw [String.append_assoc, String.append_assoc]
        exact Expr.leads_atom dialect style (ne_empty_of_shows hshows) hleads _ (by simp)
  | @subscript value index _ hindex ih₁ ih₂ =>
      obtain ⟨text, hrender, hleads, hshows⟩ := ih₁ fun part hpart =>
        hkind part (by simp [Expr.parts, hpart])
      obtain ⟨indexText, hindexRender, -, hindexShows⟩ := ih₂ fun part hpart =>
        hkind part (by simp [Expr.parts, hpart])
      have hinner := hindexShows.antitone (Nat.zero_le _) (readback.rank_strength_le index)
      have hsubscript := Shows.subscript List.drop_length (readback.shows_atom hshows) hinner
      refine ⟨_, ?_, ?_, hsubscript.antitone (readback.rank_strength_le _) (Nat.le_refl _)⟩
      · rw [Expr.render, hrender, hindexRender]
        · rfl
        · rintro lower upper step rfl
          cases hindex
      · rw [String.append_assoc, String.append_assoc]
        exact Expr.leads_atom dialect style (ne_empty_of_shows hshows) hleads _ (by simp)

end Readback

end Trees

/-! ### The levels of the snippet language -/

section SnippetLevels

variable {dialect : Dialect} {style : Layout.BraceStyle}

theorem lookup_comparison {op : CompareOp} (his : op ≠ .is) (hisNot : op ≠ .isNot) :
    [("==", CompareOp.equal), ("!=", .notEqual), ("<", .less), ("<=", .lessEqual), (">", .greater),
      (">=", .greaterEqual), ("<in>", .isIn), ("<not in>", .notIn)].lookup
        (Operator.compare op).curlySpelling = some op := by
  cases op <;> first | rfl | contradiction

theorem lookup_unary (op : UnaryOp) (hnot : op ≠ .not) :
    arithmeticPrefixes.lookup (Operator.unary op).curlySpelling = some op := by
  cases op <;> first | rfl | contradiction

theorem precedes_unary (op : UnaryOp) :
    Precedes snippetGrammar.signs (Operator.unary op).curlySpelling := by
  cases op <;> decide +kernel

theorem shows_unary (op : UnaryOp) {text : String} {tree : Expr}
    (h : Shows snippetGrammar Strength.unary text tree) :
    Shows snippetGrammar (Operator.unary op).strength ((Operator.unary op).curlySpelling ++ text)
      (.unary op tree) := by
  by_cases hnot : op = .not
  · subst hnot
    have hloose : Shows snippetGrammar 3 text tree := h.antitone (by decide) (by decide)
    exact Shows.before rfl rfl (precedes_unary .not) hloose
  · have hstrength : (Operator.unary op).strength = Strength.unary := by
      cases op <;> first | rfl | contradiction
    rw [hstrength]
    exact Shows.before rfl (lookup_unary op hnot) (precedes_unary op) h

theorem lookup_map {α β : Type} (make : α → β) {ops : List (String × α)} {sign : String} {op : α}
    (h : ops.lookup sign = some op) :
    (ops.map fun (sign, op) => (sign, make op)).lookup sign = some (make op) := by
  induction ops with
  | nil => cases h
  | cons first rest ih =>
      obtain ⟨found, firstOp⟩ := first
      by_cases hfound : sign = found
      · subst hfound
        obtain rfl : firstOp = op := by simpa using h
        simp
      · have hne : (sign == found) = false := beq_false_of_ne hfound
        rw [List.lookup_cons, hne] at h
        rw [List.map_cons, List.lookup_cons, hne]
        exact ih h

theorem shows_left {α : Type} (make : α → Expr → Expr → Expr) {grammar : Grammar} {level : Nat}
    {ops : List (String × α)} {op : α} {first second sign : String} {left right : Expr}
    (hdrop : grammar.levels.drop level =
      .left (ops.map fun (sign, op) => (sign, make op)) :: grammar.levels.drop (level + 1))
    (hop : ops.lookup sign = some op) (h₁ : Shows grammar level first left)
    (h₂ : Shows grammar (level + 1) second right) :
    Shows grammar level (first ++ (" " ++ sign ++ " ") ++ second) (make op left right) :=
  Shows.left hdrop (lookup_map make hop) h₁ h₂

theorem BinaryOp.leastStrengths_le (op : BinaryOp) :
    op.leastStrengths.1 ≤ Strength.atom ∧ op.leastStrengths.2 ≤ Strength.atom := by
  cases op <;> decide

theorem shows_binary {op : BinaryOp} (hop : op ≠ .matMult) {first second : String}
    {left right : Expr} (h₁ : Shows snippetGrammar op.leastStrengths.1 first left)
    (h₂ : Shows snippetGrammar op.leastStrengths.2 second right) :
    Shows snippetGrammar op.strength
      (first ++ (" " ++ (Operator.binary op).curlySpelling ++ " ") ++ second)
      (.binary left op right) := by
  cases op with
  | matMult => exact absurd rfl hop
  | pow => exact Shows.power rfl rfl h₁ (h₂.antitone (Nat.le_succ 11) (by decide))
  | _ => exact shows_left (fun op left right => .binary left op right) rfl rfl h₁ h₂

/-- A strength of the snippet language is the number of its level. -/
theorem snippetGrammar_readback :
    Readback snippetGrammar id (Strength.comparison + 1) (fun _ => True) dialect style where
  rank_le _ h := h
  rank_atom := rfl
  rank_choice := rfl
  choice := rfl
  rank_pos _ _ h := h
  run op := by cases op <;> rfl
  run_lt _ _ _ h := h
  place_le := by decide
  comparand _ _ htight := htight
  comparison _ _ his h₁ h₂ := Shows.comparison rfl (lookup_comparison his.1 his.2) h₁ h₂
  unary {op operand _ _} _ _ _ hshows :=
    shows_unary op (shows_operand dialect style _ operand.strength_le_atom (by decide) id hshows)
  binary {left right _ _ op _ _} _ hop h₁ h₂ :=
    shows_binary hop
      (shows_operand dialect style _ left.strength_le_atom op.leastStrengths_le.1 id h₁)
      (shows_operand dialect style _ right.strength_le_atom op.leastStrengths_le.2 id h₂)

/-- An expression is rendered, and its text shows it with its chains expanded. -/
def Shown (dialect : Dialect) (style : Layout.BraceStyle) (around : Surroundings) (asType : Bool)
    (expr : Expr) : Prop :=
  ∃ text, expr.render (.curly dialect style) around asType = .ok text ∧
    Shows snippetGrammar expr.strength text expr.chainsExpanded

theorem Expr.Plain.shown {around : Surroundings} {asType : Bool} {expr : Expr}
    (h : expr.Plain dialect around) : Shown dialect style around asType expr := by
  obtain ⟨text, hrender, -, hshows⟩ : ShownBy snippetGrammar id dialect style around asType expr :=
    snippetGrammar_readback.shown h fun _ _ => trivial
  exact ⟨text, hrender, hshows⟩

end SnippetLevels

/-- **Grouping keeps the tree.** The languages with braces render every plain expression, and reading
the text back with the levels of the snippet language gives the expression, with the conjunction of
its links for every chain of comparisons. -/
theorem read?_render (dialect : Dialect) (style : Layout.BraceStyle) (around : Surroundings)
    (asType : Bool) {expr : Expr} (h : expr.Plain dialect around) :
    ∃ text, expr.render (.curly dialect style) around asType = .ok text ∧
      snippetGrammar.read? text = some expr.chainsExpanded := by
  obtain ⟨text, hrender, hshows⟩ : Shown dialect style around asType expr := h.shown
  exact ⟨text, hrender, (hshows.antitone (Nat.zero_le _) expr.strength_le_atom).read?_eq⟩

/-- A negated power of a chain, `-(a < b <= c) ** x.y`. -/
theorem read?_render_chain_power :
    let chain := Expr.compare (.name "a") [.less, .lessEqual] [.name "b", .name "c"]
    let power := Expr.unary .minus (.binary chain .pow (.member (.name "x") "y"))
    power.Plain .cpp .outermost ∧
      ∃ text, power.render (.curly .cpp .allman) .outermost false = .ok text ∧
        snippetGrammar.read? text = some power.chainsExpanded := by
  intro chain power
  have ha : (Expr.name "a").Plain .cpp .outermost :=
    .name ⟨'a', [], rfl, rfl, rfl⟩ (by decide) (by decide)
  have hb : (Expr.name "b").Plain .cpp .outermost :=
    .name ⟨'b', [], rfl, rfl, rfl⟩ (by decide) (by decide)
  have hc : (Expr.name "c").Plain .cpp .outermost :=
    .name ⟨'c', [], rfl, rfl, rfl⟩ (by decide) (by decide)
  have hx : (Expr.name "x").Plain .cpp .outermost :=
    .name ⟨'x', [], rfl, rfl, rfl⟩ (by decide) (by decide)
  have hchain : chain.Plain .cpp .outermost :=
    .compare (by decide) rfl (by simp) ha (by simp [hb, hc])
  have hmember : (Expr.member (.name "x") "y").Plain .cpp .outermost :=
    .member hx ⟨'y', [], rfl, rfl, rfl⟩ (by decide) (by simp)
  have hplain : power.Plain .cpp .outermost := .unary .minus (.binary (by decide) hchain hmember)
  exact ⟨hplain, read?_render .cpp .allman .outermost false hplain⟩

end Snippet
