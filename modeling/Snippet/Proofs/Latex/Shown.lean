import Snippet.Proofs.Formula.Token
import Snippet.Proofs.Refusal.Settled

/-!
# What formulas show

A formula does not show all of an expression: a conversion to a whole number shows what it converts,
and identity has the sign of equality. Neither does it show how an expression reads among others.
What counts there is how tightly its text binds, and whether there is a blank in it, for then it is
taken for a sentence.
-/

namespace Snippet

open Formula Render

/-- Formulas have one sign for identity and equality. -/
def CompareOp.shown : CompareOp → CompareOp
  | .is => .equal
  | .isNot => .notEqual
  | op => op

namespace Expr

section Shown

variable (around : Surroundings)

def hasArrow (ident : String) : Bool :=
  Pseudocode.isVectorType (around.scopes.lookup ident)

/-- What a call shows: a conversion to a whole number shows what it converts. -/
def applied (func : Expr) (args : List Expr) : Expr :=
  match func, args with
  | .name "int", [value] => if hasArrow around "int" then .call func args else value
  | func, args => .call func args

mutual

/-- What the formula of an expression shows. Forms without an operator, a call, a member or an index
at the top stay as they are. -/
def unconverted : Expr → Expr
  | .member value attr => .member value.unconverted attr
  | .unary op operand => .unary op operand.unconverted
  | .binary left op right => .binary left.unconverted op right.unconverted
  | .bool op values => .bool op (unconvertedAll values)
  | .compare left ops comparators =>
    .compare left.unconverted (ops.map CompareOp.shown) (unconvertedAll comparators)
  | .call func args => applied around func.unconverted (unconvertedAll args)
  | .subscript value index => .subscript value.unconverted index.unconverted
  | expr => expr

def unconvertedAll : List Expr → List Expr
  | [] => []
  | expr :: rest => expr.unconverted :: unconvertedAll rest

end

/-- Expressions of plain names without the exclusive or, which has the sign of a power. A vector of
one item would be a group, and an arrow over its name would hide the name. -/
inductive Formulaic : Expr → Prop where
  | name {ident : String} (hword : IsWord ident) (hplain : '_' ∉ ident.toList)
      (hmath : ident ≠ "math") : Formulaic (.name ident)
  | member {value : Expr} {attr : String} (h : Formulaic value) (hword : IsWord attr) :
      Formulaic (.member value attr)
  | unary (op : UnaryOp) {operand : Expr} (h : Formulaic operand) :
      Formulaic (.unary op operand)
  | binary {left right : Expr} {op : BinaryOp} (hxor : op ≠ .bitXor) (h₁ : Formulaic left)
      (h₂ : Formulaic right) : Formulaic (.binary left op right)
  | bool (op : BoolOp) {values : List Expr} (hlength : 2 ≤ values.length)
      (h : ∀ value ∈ values, Formulaic value) : Formulaic (.bool op values)
  | compare {left : Expr} {ops : List CompareOp} {comparators : List Expr}
      (hlength : comparators.length = ops.length) (hne : ops ≠ []) (h₁ : Formulaic left)
      (h₂ : ∀ comparator ∈ comparators, Formulaic comparator) :
      Formulaic (.compare left ops comparators)
  | call {func : Expr} {args : List Expr} (h : Formulaic func)
      (hargs : ∀ arg ∈ args, Formulaic arg) : Formulaic (.call func args)
  | vector {args : List Expr} (hlength : args.length ≠ 1)
      (hargs : ∀ arg ∈ args, Formulaic arg) (harrow : hasArrow around "Vector2D" = false) :
      Formulaic (.call (.name "Vector2D") args)
  | subscript {value index : Expr} (h₁ : Formulaic value) (h₂ : Formulaic index) :
      Formulaic (.subscript value index)

end Shown

theorem unconvertedAll_eq_map (around : Surroundings) (exprs : List Expr) :
    unconvertedAll around exprs = exprs.map (unconverted around) := by
  induction exprs with
  | nil => rfl
  | cons expr rest ih => rw [unconvertedAll, ih, List.map_cons]

theorem applied_of_ne {around : Surroundings} {func : Expr}
    (h : func = .name "int" → hasArrow around "int" = true) (args : List Expr) :
    applied around func args = .call func args := by
  rw [applied.eq_def]
  split
  · rw [if_pos (h rfl)]
  · rfl

theorem eq_of_applied_eq_name {around : Surroundings} {func : Expr} {args : List Expr}
    {ident : String} (h : applied around func args = .name ident) :
    func = .name "int" ∧ hasArrow around "int" = false ∧ args = [.name ident] := by
  rw [applied.eq_def] at h
  split at h
  · split at h
    · cases h
    · next harrow => exact ⟨rfl, by simpa using harrow, by rw [h]⟩
  · cases h

theorem exists_of_unconverted_eq_name {around : Surroundings} {func : Expr} {args : List Expr}
    {ident : String} (h : (Expr.call func args).unconverted around = .name ident) :
    func.unconverted around = .name "int" ∧ hasArrow around "int" = false ∧
      ∃ value, args = [value] ∧ value.unconverted around = .name ident := by
  obtain ⟨hfunc, harrow, hargs⟩ := eq_of_applied_eq_name h
  rw [unconvertedAll_eq_map, List.map_eq_singleton_iff] at hargs
  exact ⟨hfunc, harrow, hargs⟩

end Expr

/-! ### Names -/

theorem symbol_of_plain {ident : String} (h : '_' ∉ ident.toList) :
    Pseudocode.symbol ident =
      if ["min", "max", "alpha", "beta", "theta"].contains ident then "\\" ++ ident else ident := by
  have htrim : Text.trimUnderscores ident = ident :=
    Text.trimUnderscores_eq_self (fun hhead => h (List.mem_of_head? hhead))
      fun hlast => h (List.mem_of_getLast? hlast)
  have hsplit : Text.splitAtLastUnderscore ident = none := by
    have hdrop : ident.toList.reverse.dropWhile (· != '_') = [] := by
      refine List.dropWhile_eq_nil_iff.mpr fun c hc => ?_
      have hne : c ≠ '_' := fun heq => h (by simpa [heq] using hc)
      simpa using hne
    rw [Text.splitAtLastUnderscore, hdrop]
  simp only [Pseudocode.symbol, htrim, hsplit]

theorem name_of_no_arrow {around : Surroundings} {ident : String}
    (h : Expr.hasArrow around ident = false) :
    Pseudocode.name around ident false = Pseudocode.symbol ident := by
  rw [Expr.hasArrow] at h
  rw [Pseudocode.name, if_neg (by simp [h])]
  rfl

theorem name_eq_self {around : Surroundings} {ident : String}
    (hsymbol : Pseudocode.symbol ident = ident) (harrow : Expr.hasArrow around ident = false) :
    Pseudocode.name around ident false = ident := (name_of_no_arrow harrow).trans hsymbol

/-- What shows a name is written as one. -/
theorem Expr.Formulaic.render_of_name {around : Surroundings} {expr : Expr} {ident : String}
    (h : expr.Formulaic around) (hname : expr.unconverted around = .name ident) :
    expr.render (.pseudocode none) around false = .ok (Pseudocode.name around ident false) ∧
      Strength.atom ≤ expr.strength := by
  induction h generalizing ident with
  | name hword hplain hmath =>
      obtain rfl := Expr.name.inj hname
      exact ⟨rfl, Nat.le_refl _⟩
  | @call func args _ _ ih ihargs =>
      obtain ⟨hfunc, harrow, value, rfl, hvalue⟩ := exists_of_unconverted_eq_name hname
      obtain ⟨hrender, hatom⟩ := ih hfunc
      obtain ⟨hvalueRender, -⟩ := ihargs value List.mem_cons_self hvalue
      have hcallee : Pseudocode.name around "int" false = "int" := name_eq_self (by decide) harrow
      refine ⟨?_, Nat.le_refl _⟩
      rw [Expr.render, hrender, hcallee]
      simp only [Expr.renderAll, hvalueRender, Target.atom, Nat.not_lt.mpr hatom, if_false]
      rfl
  | _ => cases hname

theorem Expr.Formulaic.unconverted_ne_math {around : Surroundings} {expr : Expr}
    (h : expr.Formulaic around) : expr.unconverted around ≠ .name "math" := by
  intro hmath
  induction h with
  | name _ _ hname => exact hname (Expr.name.inj hmath)
  | call _ _ _ ihargs =>
      obtain ⟨-, -, value, rfl, hvalue⟩ := exists_of_unconverted_eq_name hmath
      exact ihargs value List.mem_cons_self hvalue
  | _ => cases hmath

theorem Expr.Formulaic.ne_slice {around : Surroundings} {expr : Expr} (h : expr.Formulaic around) :
    ∀ lower upper step, expr ≠ .slice lower upper step := by
  rintro lower upper step rfl
  cases h

end Snippet
