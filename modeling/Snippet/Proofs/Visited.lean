import Snippet.Render.Rendering

/-!
# The nodes that a walk reaches

The nodes of a tree in the order in which a walk comes to the end of them: the parts of an
expression before the expression, what a statement reads before the statement, and the statement
before its body. Nothing here asks what a target makes of a node.
-/

namespace Snippet

open Render

mutual

/-- A slice and a wildcard are nodes of their own only where nothing takes them apart. A comparison
without operators is reached before its operand, and any other one goes over as many comparators as
it has operators. -/
def Expr.visited : Expr → List RejectedNode
  | .constant value => [.expr (.constant value)]
  | .name ident => [.expr (.name ident)]
  | .member value attr => value.visited ++ [.expr (.member value attr)]
  | .unary op operand => operand.visited ++ [.expr (.unary op operand)]
  | .binary left op right => left.visited ++ right.visited ++ [.expr (.binary left op right)]
  | .bool op values => Expr.visitedAll values ++ [.expr (.bool op values)]
  | .call func args => func.visited ++ Expr.visitedAll args ++ [.expr (.call func args)]
  | .tuple elements => Expr.visitedAll elements ++ [.expr (.tuple elements)]
  | .list elements => Expr.visitedAll elements ++ [.expr (.list elements)]
  | .set elements => Expr.visitedAll elements ++ [.expr (.set elements)]
  | .dict pairs => Expr.visitedPairs pairs ++ [.expr (.dict pairs)]
  | .compare left [] comparators => [.expr (.compare left [] comparators)]
  | .compare left (op :: ops) comparators =>
    left.visited ++ Expr.visitedLinks (op :: ops) comparators ++
      [.expr (.compare left (op :: ops) comparators)]
  | .conditional test body orelse =>
    test.visited ++ body.visited ++ orelse.visited ++ [.expr (.conditional test body orelse)]
  | .subscript value (.slice lower upper step) =>
    value.visited ++ Expr.visitedOptional lower ++ Expr.visitedOptional upper ++
      Expr.visitedOptional step ++ [.expr (.subscript value (.slice lower upper step))]
  | .subscript value index => value.visited ++ index.visited ++ [.expr (.subscript value index)]
  | .slice lower upper step => [.expr (.slice lower upper step)]
  | .starred value => value.visited ++ [.expr (.starred value)]
  | .matchValue value => value.visited ++ [.expr (.matchValue value)]
  | .matchAs binder => [.expr (.matchAs binder)]

def Expr.visitedAll : List Expr → List RejectedNode
  | [] => []
  | expr :: rest => expr.visited ++ Expr.visitedAll rest

def Expr.visitedPairs : List (Expr × Expr) → List RejectedNode
  | [] => []
  | (key, value) :: rest => key.visited ++ value.visited ++ Expr.visitedPairs rest

def Expr.visitedLinks : List CompareOp → List Expr → List RejectedNode
  | _ :: ops, expr :: rest => expr.visited ++ Expr.visitedLinks ops rest
  | _, _ => []

def Expr.visitedOptional : Option Expr → List RejectedNode
  | none => []
  | some expr => expr.visited

end

def Expr.visitedPattern : Expr → List RejectedNode
  | .matchAs none => []
  | pattern => pattern.visited

def FunctionHeader.visitedParams (header : FunctionHeader) : Nat → List Param → List RejectedNode
  | _, [] => []
  | index, param :: rest =>
    Expr.visitedOptional param.hint ++ Expr.visitedOptional (header.default? index) ++
      header.visitedParams (index + 1) rest

/-- The receiver of a method is passed over, and so are decorators everywhere. -/
def FunctionHeader.visited (isMethod : Bool) (header : FunctionHeader) : List RejectedNode :=
  let skipped := if isMethod && header.hasReceiver then 1 else 0
  Expr.visitedOptional header.returns ++
    header.visitedParams skipped (header.params.drop skipped)

mutual

def Stmt.visited (inClassBody : Bool) : Stmt → List RejectedNode
  | .mk _ kind => kind.visited inClassBody

/-- The functions right in the body of a class are its methods. A constant that stands as a statement
is documentation or a comment and no node of the walk. -/
def StmtKind.visited (inClassBody : Bool) : StmtKind → List RejectedNode
  | .classDef name bases body =>
    Expr.visitedAll bases ++ .stmt (.classDef name bases body) :: Stmt.visitedAll true body
  | .functionDef header body =>
    header.visited inClassBody ++ .stmt (.functionDef header body) :: Stmt.visitedAll false body
  | .assign targets value => Expr.visitedAll targets ++ value.visited
  | .annAssign declared hint value =>
    hint.visited ++ declared.visited ++ Expr.visitedOptional value
  | .augAssign assigned _ value => assigned.visited ++ value.visited
  | .branch test body orelse =>
    test.visited ++ Stmt.visitedAll false body ++ Stmt.visitedAll false orelse
  | .forLoop item iter body isAsync =>
    item.visited ++ iter.visited ++ .stmt (.forLoop item iter body isAsync) ::
      Stmt.visitedAll false body
  | .whileLoop test body => test.visited ++ Stmt.visitedAll false body
  | .pass | .breakLoop | .continueLoop => []
  | .returning value => Expr.visitedOptional value
  | .switch subject cases =>
    subject.visited ++ .stmt (.switch subject cases) :: MatchCase.visitedAll cases
  | .imports names => [.stmt (.imports names)]
  | .importFrom module names => [.stmt (.importFrom module names)]
  | .delete targets => Expr.visitedAll targets ++ [.stmt (.delete targets)]
  | .typeAlias name value => name.visited ++ value.visited ++ [.stmt (.typeAlias name value)]
  | .expr (.constant _) => []
  | .expr value => value.visited

def Stmt.visitedAll (inClassBody : Bool) : List Stmt → List RejectedNode
  | [] => []
  | stmt :: rest => stmt.visited inClassBody ++ Stmt.visitedAll inClassBody rest

def MatchCase.visited : MatchCase → List RejectedNode
  | .mk line pattern body =>
    pattern.visitedPattern ++ .matchCase (.mk line pattern body) :: Stmt.visitedAll false body

def MatchCase.visitedAll : List MatchCase → List RejectedNode
  | [] => []
  | arm :: rest => arm.visited ++ MatchCase.visitedAll rest

end

def Program.visited (program : Program) : List RejectedNode := Stmt.visitedAll false program.body

end Snippet
