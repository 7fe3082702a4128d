import Snippet.Proofs.Outline.Texts

/-!
# Outlines of scripts

A script for a language with braces is made of pieces that the brace style lays out: lines of code,
comments, and the braces of blocks with what stands before them. Pieces are traced through the depth
of the braces, and what can be found again in the tree is noted on the way.
-/

namespace Snippet

open Layout (BraceStyle Step)
open Render
open Text (cleanDoc)

/-- What begins at a line that is prepared for. -/
inductive Place where
  | statement
  /-- A branch after the first of its chain. -/
  | branch
  | arm
deriving DecidableEq

/-- What a reader of the output can look up in the tree: the lines that are prepared for, with the
number of braces open there, and the comments that constants become. -/
inductive Landmark where
  | start (place : Place) (line : UInt64) (depth : Nat)
  | remark (lines : List String)
  | documentation (lines : List String)

inductive Piece where
  | prepare (place : Place) (line : UInt64)
  | code (text : String)
  | remark (lines : List String)
  | documentation (lines : List String)
  /-- A header and the brace that opens its block. -/
  | opening (header : String)
  /-- The end of a block and the header of the next in its chain. -/
  | middle (header : String)
  | closing (closer : String)
  | indent
  | dedent

namespace Piece

def steps (style : BraceStyle) : Piece → List Step
  | prepare _ line => [.prepare line]
  | code text => [.line text]
  | remark lines => Dialect.comment lines
  | documentation lines => Dialect.docComment lines
  | opening header => style.opening header
  | middle header => style.middle header
  | closing closer => style.closing closer
  | indent => [.indent]
  | dedent => [.dedent]

/-- A piece of texts of code and of lines of comments. -/
def Fits (Code Note : String → Prop) : Piece → Prop
  | code text | opening text | middle text => Code text
  | remark lines | documentation lines => ∀ line ∈ lines, Note line
  | closing closer => closer = "\x7d" ∨ closer = "\x7d;"
  | prepare _ _ | indent | dedent => True

/-- The number of braces open after a piece; there has to be one to close. -/
def depth? (depth : Nat) : Piece → Option Nat
  | opening _ => some (depth + 1)
  | middle _ => if depth = 0 then none else some depth
  | closing _ => if depth = 0 then none else some (depth - 1)
  | _ => some depth

def landmarks (depth : Nat) : Piece → List Landmark
  | prepare place line => [.start place line depth]
  | remark lines => [.remark lines]
  | documentation lines => [.documentation lines]
  | _ => []

end Piece

/-- Pieces lead from one depth to another and pass some landmarks. -/
inductive Traced : Nat → List Piece → Nat → List Landmark → Prop where
  | nil (depth : Nat) : Traced depth [] depth []
  | cons {depth next last : Nat} {piece : Piece} {pieces : List Piece} {landmarks : List Landmark}
      (hnext : piece.depth? depth = some next) (h : Traced next pieces last landmarks) :
      Traced depth (piece :: pieces) last (piece.landmarks depth ++ landmarks)

namespace Traced

variable {depth middle last : Nat} {piece : Piece} {first second : List Piece}
  {before after : List Landmark}

theorem append (h₁ : Traced depth first middle before) (h₂ : Traced middle second last after) :
    Traced depth (first ++ second) last (before ++ after) := by
  induction h₁ with
  | nil depth => exact h₂
  | cons hnext _ ih =>
      rw [List.append_assoc]
      exact .cons hnext (ih h₂)

theorem singleton (h : piece.depth? depth = some last) :
    Traced depth [piece] last (piece.landmarks depth) := by
  rw [← List.append_nil (piece.landmarks depth)]
  exact .cons h (.nil last)

end Traced

/-! ### What a tree holds -/

def FunctionHeader.leaves (header : FunctionHeader) : List Leaf :=
  .name header.name ::
    (header.params.flatMap (fun param => .name param.name :: Expr.leavesOptional param.hint) ++
      Expr.leavesAll header.defaults ++ Expr.leavesOptional header.returns)

def Alias.leaves (imported : Alias) : List Leaf :=
  .name imported.name :: imported.asname.toList.map .name

mutual

def Stmt.leaves : Stmt → List Leaf
  | .mk _ kind => kind.leaves

def StmtKind.leaves : StmtKind → List Leaf
  | .classDef name bases body => .name name :: (Expr.leavesAll bases ++ Stmt.leavesAll body)
  | .functionDef header body => header.leaves ++ Stmt.leavesAll body
  | .assign targets value => Expr.leavesAll targets ++ value.leaves
  | .annAssign declared hint value =>
    hint.leaves ++ declared.leaves ++ Expr.leavesOptional value
  | .augAssign assigned op value => .operator op :: (assigned.leaves ++ value.leaves)
  | .branch test body orelse => test.leaves ++ Stmt.leavesAll body ++ Stmt.leavesAll orelse
  | .forLoop item iter body _ => item.leaves ++ iter.leaves ++ Stmt.leavesAll body
  | .whileLoop test body => test.leaves ++ Stmt.leavesAll body
  | .pass | .breakLoop | .continueLoop => []
  | .returning value => Expr.leavesOptional value
  | .switch subject cases => subject.leaves ++ MatchCase.leavesAll cases
  | .imports names => names.flatMap Alias.leaves
  | .importFrom module names => module.toList.map .name ++ names.flatMap Alias.leaves
  | .delete targets => Expr.leavesAll targets
  | .typeAlias name value => name.leaves ++ value.leaves
  | .expr (.constant value) => [.note value]
  | .expr value => value.leaves

def Stmt.leavesAll : List Stmt → List Leaf
  | [] => []
  | stmt :: rest => stmt.leaves ++ Stmt.leavesAll rest

def MatchCase.leaves : MatchCase → List Leaf
  | .mk _ pattern body => pattern.leaves ++ Stmt.leavesAll body

def MatchCase.leavesAll : List MatchCase → List Leaf
  | [] => []
  | arm :: rest => arm.leaves ++ MatchCase.leavesAll rest

end

def Program.leaves (program : Program) : List Leaf := Stmt.leavesAll program.body

/-- The documentation at the start of a body, which is written before the header. -/
def Stmt.documentedLandmarks : List Stmt → List Landmark
  | [] => []
  | first :: _ =>
    first.docText?.toList.map fun text => .documentation (cleanDoc (documentation text))

mutual

/-- The landmarks of a statement with `depth` braces open around it. -/
def Stmt.landmarks (depth : Nat) : Stmt → List Landmark
  | .mk line kind => .start .statement line depth :: kind.landmarks depth

/-- The bodies of classes, functions and loops, the branches of a chain and a `match` stand in
braces of their own. -/
def StmtKind.landmarks (depth : Nat) : StmtKind → List Landmark
  | .classDef _ _ body | .functionDef _ body =>
    Stmt.documentedLandmarks body ++ Stmt.undocumentedLandmarks (depth + 1) body
  | .branch _ body orelse =>
    Stmt.landmarksAll (depth + 1) body ++ Stmt.orelseLandmarks depth orelse
  | .forLoop _ _ body _ | .whileLoop _ body => Stmt.landmarksAll (depth + 1) body
  | .switch _ cases => MatchCase.landmarksAll (depth + 1) cases
  | .expr (.constant value) => [.remark (cleanDoc value.plainText)]
  | _ => []

def Stmt.landmarksAll (depth : Nat) : List Stmt → List Landmark
  | [] => []
  | stmt :: rest => stmt.landmarks depth ++ Stmt.landmarksAll depth rest

def Stmt.undocumentedLandmarks (depth : Nat) : List Stmt → List Landmark
  | [] => []
  | stmt :: rest =>
    if stmt.docText?.isSome then Stmt.landmarksAll depth rest
    else stmt.landmarks depth ++ Stmt.landmarksAll depth rest

/-- The branches after the first are prepared for where the branch before them is still open. -/
def Stmt.orelseLandmarks (depth : Nat) : List Stmt → List Landmark
  | [] => []
  | [.mk line (.branch _ body orelse)] =>
    .start .branch line (depth + 1) ::
      (Stmt.landmarksAll (depth + 1) body ++ Stmt.orelseLandmarks depth orelse)
  | stmt :: rest =>
    .start .branch stmt.line (depth + 1) ::
      (stmt.landmarks (depth + 1) ++ Stmt.landmarksAll (depth + 1) rest)

/-- An arm opens no braces. -/
def MatchCase.landmarks (depth : Nat) : MatchCase → List Landmark
  | .mk line _ body => .start .arm line depth :: Stmt.landmarksAll depth body

def MatchCase.landmarksAll (depth : Nat) : List MatchCase → List Landmark
  | [] => []
  | arm :: rest => arm.landmarks depth ++ MatchCase.landmarksAll depth rest

end

def Program.landmarks (program : Program) : List Landmark := Stmt.landmarksAll 0 program.body

end Snippet
