import Snippet.Target.Basic
import Snippet.Tree.Dump

namespace Snippet.Render

/-- A node that a target has no form for. -/
inductive RejectedNode where
  | expr (value : Expr)
  | stmt (kind : StmtKind)
  | matchCase (arm : MatchCase)

namespace RejectedNode

def kindName : RejectedNode → String
  | expr value => value.kindName
  | stmt kind => kind.kindName
  | matchCase _ => "match_case"

def dump : RejectedNode → String
  | expr value => value.dump
  | stmt kind => kind.dump
  | matchCase arm => arm.dump

end RejectedNode

/-- Why a rendering failed: the first node on the way that the target has no form for. -/
structure Rejection where
  target : Target
  node : RejectedNode

def Rejection.message (rejection : Rejection) : String :=
  rejection.target.name ++ ": unsupported " ++ rejection.node.kindName ++ ": " ++
    rejection.node.dump

end Snippet.Render
