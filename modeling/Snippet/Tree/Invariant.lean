import Snippet.Tree.Basic

namespace Snippet

/-! What the grammar says of every tree: which lists have an item at least, which of them keep step,
and where patterns stand. -/

mutual

/-- A chain of `and` or `or` has two values at least, and a comparison has an operator at least and one
before each comparator. Patterns are no expressions. -/
@[simp]
def Expr.wellFormed : Expr → Bool
  | .constant _ | .name _ => true
  | .member value _ => value.wellFormed
  | .unary _ operand => operand.wellFormed
  | .binary left _ right => left.wellFormed && right.wellFormed
  | .bool _ values => 2 ≤ values.length && Expr.wellFormedAll values
  | .call func args => func.wellFormed && Expr.wellFormedAll args
  | .tuple elements | .list elements | .set elements => Expr.wellFormedAll elements
  | .dict pairs => Expr.wellFormedPairs pairs
  | .compare left ops comparators =>
    1 ≤ ops.length && comparators.length == ops.length &&
      (left.wellFormed && Expr.wellFormedAll comparators)
  | .conditional test body orelse => test.wellFormed && body.wellFormed && orelse.wellFormed
  | .subscript value index => value.wellFormed && index.wellFormed
  | .slice lower upper step =>
    Expr.wellFormedOptional lower && Expr.wellFormedOptional upper && Expr.wellFormedOptional step
  | .starred value => value.wellFormed
  | .matchValue _ | .matchAs _ => false

@[simp]
def Expr.wellFormedAll : List Expr → Bool
  | [] => true
  | expr :: rest => expr.wellFormed && Expr.wellFormedAll rest

@[simp]
def Expr.wellFormedPairs : List (Expr × Expr) → Bool
  | [] => true
  | (key, value) :: rest => key.wellFormed && value.wellFormed && Expr.wellFormedPairs rest

@[simp]
def Expr.wellFormedOptional : Option Expr → Bool
  | none => true
  | some expr => expr.wellFormed

end

/-- The pattern of an arm is one of the two kinds of patterns. -/
def Expr.wellFormedPattern : Expr → Bool
  | .matchValue value => value.wellFormed
  | .matchAs _ => true
  | _ => false

def FunctionHeader.wellFormed (header : FunctionHeader) : Bool :=
  header.defaults.length ≤ header.params.length &&
    header.params.all (fun param => Expr.wellFormedOptional param.hint) &&
    Expr.wellFormedAll header.defaults && Expr.wellFormedOptional header.returns &&
    Expr.wellFormedAll header.decorators

mutual

@[simp]
def Stmt.wellFormed : Stmt → Bool
  | .mk _ kind => kind.wellFormed

/-- An assignment has a target at least. -/
@[simp]
def StmtKind.wellFormed : StmtKind → Bool
  | .classDef _ bases body => Expr.wellFormedAll bases && Stmt.wellFormedAll body
  | .functionDef header body => header.wellFormed && Stmt.wellFormedAll body
  | .assign targets value =>
    1 ≤ targets.length && Expr.wellFormedAll targets && value.wellFormed
  | .annAssign declared hint value =>
    declared.wellFormed && hint.wellFormed && Expr.wellFormedOptional value
  | .augAssign assigned _ value => assigned.wellFormed && value.wellFormed
  | .branch test body orelse =>
    test.wellFormed && Stmt.wellFormedAll body && Stmt.wellFormedAll orelse
  | .forLoop item iter body _ => item.wellFormed && iter.wellFormed && Stmt.wellFormedAll body
  | .whileLoop test body => test.wellFormed && Stmt.wellFormedAll body
  | .pass | .breakLoop | .continueLoop | .imports _ | .importFrom .. => true
  | .returning value => Expr.wellFormedOptional value
  | .switch subject cases => subject.wellFormed && MatchCase.wellFormedAll cases
  | .delete targets => Expr.wellFormedAll targets
  | .typeAlias name value => name.wellFormed && value.wellFormed
  | .expr value => value.wellFormed

@[simp]
def Stmt.wellFormedAll : List Stmt → Bool
  | [] => true
  | stmt :: rest => stmt.wellFormed && Stmt.wellFormedAll rest

@[simp]
def MatchCase.wellFormed : MatchCase → Bool
  | .mk _ pattern body => pattern.wellFormedPattern && Stmt.wellFormedAll body

@[simp]
def MatchCase.wellFormedAll : List MatchCase → Bool
  | [] => true
  | arm :: rest => arm.wellFormed && MatchCase.wellFormedAll rest

end

def Program.wellFormed (program : Program) : Bool := Stmt.wellFormedAll program.body

theorem Expr.wellFormedAll_iff (exprs : List Expr) :
    Expr.wellFormedAll exprs = true ↔ ∀ expr ∈ exprs, expr.wellFormed = true := by
  induction exprs with
  | nil => simp [Expr.wellFormedAll]
  | cons expr rest ih => simp [Expr.wellFormedAll, ih]

theorem Expr.wellFormedPairs_iff (pairs : List (Expr × Expr)) :
    Expr.wellFormedPairs pairs = true ↔
      ∀ pair ∈ pairs, pair.1.wellFormed = true ∧ pair.2.wellFormed = true := by
  induction pairs with
  | nil => simp [Expr.wellFormedPairs]
  | cons pair rest ih => simp [Expr.wellFormedPairs, ih]

theorem Stmt.wellFormedAll_iff (stmts : List Stmt) :
    Stmt.wellFormedAll stmts = true ↔ ∀ stmt ∈ stmts, stmt.wellFormed = true := by
  induction stmts with
  | nil => simp [Stmt.wellFormedAll]
  | cons stmt rest ih => simp [Stmt.wellFormedAll, ih]

theorem MatchCase.wellFormedAll_iff (arms : List MatchCase) :
    MatchCase.wellFormedAll arms = true ↔ ∀ arm ∈ arms, arm.wellFormed = true := by
  induction arms with
  | nil => simp [MatchCase.wellFormedAll]
  | cons arm rest ih => simp [MatchCase.wellFormedAll, ih]

theorem Expr.foldl_member_wellFormed (fields : List String) {value : Expr}
    (h : value.wellFormed = true) : (fields.foldl Expr.member value).wellFormed = true := by
  induction fields generalizing value with
  | nil => exact h
  | cons field rest ih => exact ih (by rwa [Expr.wellFormed])

theorem Stmt.wellFormed_branch (line : UInt64) (test : Expr) (body orelse : List Stmt) :
    (Stmt.branch line test body orelse).wellFormed =
      (test.wellFormed && Stmt.wellFormedAll body && Stmt.wellFormedAll orelse) := by
  rw [Stmt.branch, Stmt.wellFormed, StmtKind.wellFormed]

end Snippet
