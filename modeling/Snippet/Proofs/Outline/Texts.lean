import Snippet.Render.Stmt

/-!
# What the texts of code have in common

A property of texts that holds of plain text and of what is put together from texts with it, in
brackets or not, holds of everything that the languages with braces make of an expression, once it
holds of the names, the constants and the binary operators in it. Brace styles make no difference to
an expression.
-/

namespace Snippet

open Layout (BraceStyle)
open Render
open Text (cleanDoc)

/-! ### Texts -/

/-- Neither a bracket nor a character that strings and comments are told by. -/
def isPlain (c : Char) : Bool :=
  !(['(', ')', '[', ']', '\x7b', '\x7d', '/', '"', '\\'].contains c)

/-- A property of texts that is kept where texts are put together, and where a text that has it is
taken off the front. -/
structure CodeLaw (Code : String → Prop) : Prop where
  plain {text : String} (h : text.toList.all isPlain = true) : Code text
  append {first second : String} (h₁ : Code first) (h₂ : Code second) : Code (first ++ second)
  cancel {first second : String} (h₁ : Code first) (h : Code (first ++ second)) : Code second
  group {text : String} (h : Code text) : Code ("(" ++ text ++ ")")
  index {text : String} (h : Code text) : Code ("[" ++ text ++ "]")
  braces {text : String} (h : Code text) : Code ("\x7b" ++ text ++ "\x7d")

/-- A name stands in code as it is or styled. -/
def Dialect.SpellsName (dialect : Dialect) (Code : String → Prop) (ident : String) : Prop :=
  Code ident ∧ Code (dialect.styledName ident)

/-- What a tree holds that is spelled out in the texts of code or of comments. -/
inductive Leaf where
  | name (ident : String)
  | constant (value : Constant)
  /-- A constant that stands as a statement. -/
  | note (value : Constant)
  | operator (op : BinaryOp)

/-- The spellings of a leaf are texts of code, or lines of a comment. -/
def Leaf.Fits (dialect : Dialect) (Code Note : String → Prop) : Leaf → Prop
  | .name ident => dialect.SpellsName Code ident
  | .constant value => ∀ asType, Code (dialect.constant value asType)
  | .note value =>
    (∀ line ∈ cleanDoc value.plainText, Note line) ∧
      ∀ line ∈ cleanDoc (documentation value.plainText), Note line
  | .operator op =>
    Code (" " ++ dialect.operator (.binary op) ++ " ") ∧
      Code (" " ++ dialect.operator (.binary op) ++ "= ")

mutual

def Expr.leaves : Expr → List Leaf
  | .constant value => [.constant value]
  | .name ident => [.name ident]
  | .member value attr => .name attr :: value.leaves
  | .unary _ operand => operand.leaves
  | .binary left op right => .operator op :: (left.leaves ++ right.leaves)
  | .bool _ values => Expr.leavesAll values
  | .call func args => func.leaves ++ Expr.leavesAll args
  | .tuple elements => Expr.leavesAll elements
  | .list elements => Expr.leavesAll elements
  | .set elements => Expr.leavesAll elements
  | .dict pairs => Expr.leavesPairs pairs
  | .compare left _ comparators => left.leaves ++ Expr.leavesAll comparators
  | .conditional test body orelse => test.leaves ++ body.leaves ++ orelse.leaves
  | .subscript value index => value.leaves ++ index.leaves
  | .slice lower upper step =>
    Expr.leavesOptional lower ++ Expr.leavesOptional upper ++ Expr.leavesOptional step
  | .starred value => value.leaves
  | .matchValue value => value.leaves
  | .matchAs none => []
  | .matchAs (some binder) => [.name binder]

def Expr.leavesAll : List Expr → List Leaf
  | [] => []
  | expr :: rest => expr.leaves ++ Expr.leavesAll rest

def Expr.leavesPairs : List (Expr × Expr) → List Leaf
  | [] => []
  | (key, value) :: rest => key.leaves ++ value.leaves ++ Expr.leavesPairs rest

def Expr.leavesOptional : Option Expr → List Leaf
  | none => []
  | some expr => expr.leaves

end

/-! ### The forms of expressions -/

/-- The same characters make the same text, wherever literals are cut. -/
theorem respelled {Code : String → Prop} {first second : String} (h : Code first)
    (heq : second.toList = first.toList) : Code second :=
  String.toList_injective heq ▸ h

theorem Dialect.SpellsName.capturePattern {dialect : Dialect} {Code : String → Prop}
    {binder text : String} (h : dialect.SpellsName Code binder)
    (hform : dialect.capturePattern? binder = some text) : Code text := by
  cases dialect with
  | cpp => simp [Dialect.capturePattern?] at hform
  | typeScript typed =>
      obtain rfl := Option.some.inj hform
      exact h.2

namespace CodeLaw

variable {Code : String → Prop} (law : CodeLaw Code) {dialect : Dialect}

include law

theorem between {first second : String} (h₁ : Code first) (middle : String) (h₂ : Code second)
    (h : middle.toList.all isPlain = true) : Code (first ++ middle ++ second) :=
  law.append (law.append h₁ (law.plain h)) h₂

theorem intercalate {separator : String} (hseparator : Code separator) {texts : List String}
    (h : ∀ text ∈ texts, Code text) : Code (separator.intercalate texts) := by
  induction texts with
  | nil => exact law.plain rfl
  | cons first rest ih =>
      obtain ⟨hfirst, hrest⟩ := List.forall_mem_cons.mp h
      by_cases hne : rest = []
      · subst hne
        rwa [String.intercalate_singleton]
      · rw [String.intercalate_cons_of_ne_nil hne]
        exact law.append (law.append hfirst hseparator) (ih hrest)

theorem infixed {separator first second : String} (hseparator : Code separator) (h₁ : Code first)
    (h₂ : Code second) : Code (separator.intercalate [first, second]) :=
  law.intercalate hseparator (by simp [h₁, h₂])

theorem commaList {texts : List String} (h : ∀ text ∈ texts, Code text) : Code (commaList texts) :=
  law.intercalate (law.plain rfl) h

theorem name {ident : String} (h : dialect.SpellsName Code ident) (around : Surroundings) :
    Code (dialect.name around ident) := by
  rw [Dialect.name]
  cases hrename : dialect.rename? ident with
  | some renamed =>
      show Code renamed
      rw [Dialect.rename?.eq_def] at hrename
      split at hrename
      · obtain ⟨-, hsome⟩ := Option.ite_none_right_eq_some.mp hrename
        obtain rfl := Option.some.inj hsome
        exact law.append (law.plain rfl) h.1
      · obtain rfl := Option.some.inj hrename
        exact law.plain rfl
      · obtain rfl := Option.some.inj hrename
        exact law.plain rfl
      · obtain ⟨-, hsome⟩ := Option.ite_none_right_eq_some.mp hrename
        obtain rfl := Option.some.inj hsome
        exact law.append (law.plain rfl) h.1
  | none =>
      dsimp only
      split
      · exact law.plain rfl
      · exact h.2

theorem member {object attr : String} (hobject : Code object)
    (h : dialect.SpellsName Code attr) : Code (dialect.member object attr) := by
  rw [Dialect.member.eq_def]
  split
  · split
    · exact law.plain rfl
    · exact law.append (law.plain rfl) h.1
  · exact law.append (law.plain rfl) h.2
  · split
    · exact law.plain rfl
    · exact law.append (law.append hobject (law.plain rfl)) h.2
  · exact law.append (law.append hobject (law.plain rfl)) h.2

theorem compareOperator (op : CompareOp) : Code (" " ++ dialect.operator (.compare op) ++ " ") := by
  rw [Dialect.operator.eq_def]
  split
  · exact law.plain rfl
  · exact law.plain rfl
  · cases op <;> exact law.plain rfl

theorem boolOperator (op : BoolOp) : Code (" " ++ dialect.operator (.bool op) ++ " ") := by
  rw [dialect.operator_eq_curlySpelling (by simp) (by simp)]
  cases op <;> exact law.plain rfl

theorem unaryOperator (op : UnaryOp) : Code (dialect.operator (.unary op)) := by
  rw [dialect.operator_eq_curlySpelling (by simp) (by simp)]
  cases op <;> exact law.plain rfl

theorem links {left : String} {rest : List (Operator × String)} (hleft : Code left)
    (h : ∀ link ∈ rest, Code (" " ++ dialect.operator link.1 ++ " ") ∧ Code link.2) :
    ∀ text ∈ dialect.links left rest, Code text := by
  induction rest generalizing left with
  | nil => simp [Dialect.links]
  | cons link rest ih =>
      obtain ⟨⟨hop, hright⟩, hrest⟩ := List.forall_mem_cons.mp h
      have hlink : Code (left ++ " " ++ dialect.operator link.1 ++ " " ++ link.2) := by
        simpa [String.append_assoc] using law.append (law.append hleft hop) hright
      exact List.forall_mem_cons.mpr ⟨hlink, ih hright hrest⟩

theorem compare {left : String} {rest : List (Operator × String)} (hleft : Code left)
    (h : ∀ link ∈ rest, Code (" " ++ dialect.operator link.1 ++ " ") ∧ Code link.2) :
    Code (dialect.compare left rest) := by
  have hlinks := law.links hleft h
  rw [Dialect.compare.eq_def]
  split
  · next link hsingle => exact hlinks link (hsingle ▸ List.mem_singleton_self link)
  · exact law.group (law.intercalate (law.plain rfl) hlinks)

theorem enclosed {start inner : String} (hstart : Code start) (hinner : Code inner) :
    Code (start ++ "(" ++ inner ++ ")") :=
  respelled (law.append hstart (law.group hinner)) (by simp)

theorem call {func : String} {args : List String} (hfunc : Code func)
    (h : ∀ text ∈ args, Code text) : Code (dialect.call func args) := by
  rw [Dialect.call.eq_def]
  cases dialect with
  | cpp => exact law.enclosed hfunc (law.commaList h)
  | typeScript typed =>
      dsimp only
      split
      · exact law.append (law.plain rfl) (law.enclosed hfunc (law.commaList h))
      · exact law.enclosed hfunc (law.commaList h)

theorem sequence (kind : SequenceKind) {elements : List String} (h : ∀ text ∈ elements, Code text) :
    Code (dialect.sequence kind elements) := by
  rw [Dialect.sequence.eq_def]
  split
  · exact law.braces (law.commaList h)
  · have hset := law.group (law.index (law.commaList h))
    exact respelled (law.append (law.plain rfl : Code "new Set") hset) (by simp)
  · exact law.index (law.commaList h)

theorem dict {pairs : List (String × String)} (h : ∀ pair ∈ pairs, Code pair.1 ∧ Code pair.2) :
    Code (dialect.dict pairs) := by
  rw [Dialect.dict]
  refine law.braces (law.commaList fun text htext => ?_)
  obtain ⟨pair, hpair, rfl⟩ := List.mem_map.mp htext
  obtain ⟨hkey, hvalue⟩ := h pair hpair
  cases dialect with
  | cpp =>
      simpa [String.append_assoc] using law.braces (law.between hkey ", " hvalue rfl)
  | typeScript typed => exact law.between hkey ": " hvalue rfl

theorem conditional {test body orelse : String} (h₁ : Code test) (h₂ : Code body)
    (h₃ : Code orelse) : Code (Dialect.conditional test body orelse) :=
  law.between (law.between h₁ " ? " h₂ rfl) " : " h₃ rfl

theorem slice {value text : String} {bounds : Bounds} (hvalue : Code value)
    (hstart : ∀ text ∈ bounds.start, Code text) (hstop : ∀ text ∈ bounds.stop, Code text)
    (h : dialect.slice? value bounds = some text) : Code text := by
  obtain ⟨start, stop, step⟩ := bounds
  cases dialect with
  | cpp => simp [Dialect.slice?] at h
  | typeScript typed =>
      have hfirst : Code (start.getD "undefined") := by
        cases start with
        | none => exact law.plain rfl
        | some text => exact hstart text rfl
      have hslice : Code ".slice" := law.plain rfl
      cases step with
      | some step => simp [Dialect.slice?] at h
      | none =>
          cases stop with
          | none =>
              obtain rfl := Option.some.inj h
              have hcall := law.append hvalue (law.append hslice (law.group hfirst))
              exact respelled hcall (by simp)
          | some last =>
              obtain rfl := Option.some.inj h
              have hboth := law.between hfirst ", " (hstop last rfl) rfl
              have hcall := law.append hvalue (law.append hslice (law.group hboth))
              exact respelled hcall (by simp)

theorem subscript {value index : String} (hvalue : Code value) (hindex : Code index) :
    Code (Target.subscript value index) :=
  respelled (law.append hvalue (law.index hindex)) (by simp [Target.subscript])

theorem operand {text : String} (h : Code text) (style : BraceStyle) (op : Operator) (least : Nat)
    (expr : Expr) : Code (Target.operand (.curly dialect style) op least expr text) := by
  rw [Target.operand]
  split
  · exact law.group h
  · exact h

theorem atom {text : String} (h : Code text) (style : BraceStyle) (expr : Expr) :
    Code (Target.atom (.curly dialect style) expr text) := by
  rw [Target.atom]
  split
  · exact law.group h
  · exact h

theorem choice {text : String} (h : Code text) (style : BraceStyle) (expr : Expr) :
    Code (Target.choice (.curly dialect style) expr text) := by
  rw [Target.choice]
  split
  · exact law.group h
  · exact h

end CodeLaw

end Snippet
