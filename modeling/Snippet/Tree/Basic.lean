import Snippet.Number.Double
import Snippet.Tree.Operator

namespace Snippet

open Number (Double)

inductive Constant where
  | nothing
  | bool (value : Bool)
  | int (value : Int64)
  | float (value : Double)
  | str (value : String)
deriving DecidableEq, Repr

inductive Expr where
  | constant (value : Constant)
  | name (name : String)
  | member (value : Expr) (name : String)
  | unary (op : UnaryOp) (operand : Expr)
  | binary (left : Expr) (op : BinaryOp) (right : Expr)
  | bool (op : BoolOp) (values : List Expr)
  | call (func : Expr) (args : List Expr)
  | tuple (elements : List Expr)
  | list (elements : List Expr)
  | set (elements : List Expr)
  | dict (pairs : List (Expr × Expr))
  /-- `left op c op c …`, one operator before each comparator. -/
  | compare (left : Expr) (ops : List CompareOp) (comparators : List Expr)
  /-- `body if test else orelse`. -/
  | conditional (test body orelse : Expr)
  | subscript (value slice : Expr)
  | slice (lower upper step : Option Expr)
  | starred (value : Expr)
  /-- A literal or dotted name as a pattern. -/
  | matchValue (value : Expr)
  /-- A pattern that binds a name, or the wildcard when there is none. -/
  | matchAs (name : Option String)
deriving Repr, Inhabited

structure Param where
  name : String
  hint : Option Expr
deriving Repr

/-- `name as asname` in an import. -/
structure Alias where
  name : String
  asname : Option String
deriving DecidableEq, Repr

/-- A function definition without its body. The defaults belong to the last parameters, in order. -/
structure FunctionHeader where
  name : String
  params : List Param
  defaults : List Expr
  returns : Option Expr
  decorators : List Expr
  isAsync : Bool
deriving Repr

mutual

/-- A statement and the source line of its first token, counted from one. -/
inductive Stmt where
  | mk (line : UInt64) (kind : StmtKind)

/-- The kinds of statements. An `elif` is the only statement of its parent's `orelse`, of kind
`branch`. -/
inductive StmtKind where
  | classDef (name : String) (bases : List Expr) (body : List Stmt)
  | functionDef (header : FunctionHeader) (body : List Stmt)
  | assign (targets : List Expr) (value : Expr)
  | annAssign (target hint : Expr) (value : Option Expr)
  | augAssign (target : Expr) (op : BinaryOp) (value : Expr)
  | branch (test : Expr) (body orelse : List Stmt)
  | forLoop (target iter : Expr) (body : List Stmt) (isAsync : Bool)
  | whileLoop (test : Expr) (body : List Stmt)
  | pass
  | breakLoop
  | continueLoop
  | returning (value : Option Expr)
  | switch (subject : Expr) (cases : List MatchCase)
  | imports (names : List Alias)
  | importFrom (module : Option String) (names : List Alias)
  | delete (targets : List Expr)
  | typeAlias (name value : Expr)
  | expr (value : Expr)

/-- One arm of a `switch`, with the line of its pattern. -/
inductive MatchCase where
  | mk (line : UInt64) (pattern : Expr) (body : List Stmt)

end

/-- A snippet: its statements in order. -/
structure Program where
  body : List Stmt

def Stmt.line : Stmt → UInt64
  | mk line _ => line

def Stmt.kind : Stmt → StmtKind
  | mk _ kind => kind

namespace Expr

def text? : Expr → Option String
  | constant (.str value) => some value
  | _ => none

def isStarred : Expr → Bool
  | starred _ => true
  | _ => false

/-- The name of an expression's kind in diagnostics. -/
def kindName : Expr → String
  | constant _ => "Constant"
  | name _ => "Name"
  | member .. => "Attribute"
  | unary .. => "UnaryOp"
  | binary .. => "BinOp"
  | bool .. => "BoolOp"
  | call .. => "Call"
  | tuple _ => "Tuple"
  | list _ => "List"
  | set _ => "Set"
  | dict _ => "Dict"
  | compare .. => "Compare"
  | conditional .. => "IfExp"
  | subscript .. => "Subscript"
  | slice .. => "Slice"
  | starred _ => "Starred"
  | matchValue _ => "MatchValue"
  | matchAs _ => "MatchAs"

end Expr

def StmtKind.kindName : StmtKind → String
  | classDef .. => "ClassDef"
  | functionDef header _ => if header.isAsync then "AsyncFunctionDef" else "FunctionDef"
  | assign .. => "Assign"
  | annAssign .. => "AnnAssign"
  | augAssign .. => "AugAssign"
  | branch .. => "If"
  | forLoop _ _ _ isAsync => if isAsync then "AsyncFor" else "For"
  | whileLoop .. => "While"
  | pass => "Pass"
  | breakLoop => "Break"
  | continueLoop => "Continue"
  | returning _ => "Return"
  | switch .. => "Match"
  | imports _ => "Import"
  | importFrom .. => "ImportFrom"
  | delete _ => "Delete"
  | typeAlias .. => "TypeAlias"
  | expr _ => "Expr"

/-- Whether a function is decorated with a bare name. -/
def FunctionHeader.hasDecorator (header : FunctionHeader) (name : String) : Bool :=
  header.decorators.any fun decorator =>
    match decorator with
    | .name found => found == name
    | _ => false

/-- The place among `defaults` trailing defaults of the one for parameter `index` of `params`. -/
def defaultIndex (params defaults index : Nat) : Option Nat :=
  if index ≤ params && params - index ≤ defaults then some (defaults - (params - index)) else none

/-- The default of the parameter at a place, when it has one. -/
def FunctionHeader.default? (header : FunctionHeader) (index : Nat) : Option Expr :=
  (defaultIndex header.params.length header.defaults.length index).bind (header.defaults[·]?)

/-! Statements from their parts. -/

namespace Stmt

def ofExpr (line : UInt64) (value : Expr) : Stmt := mk line (.expr value)

def assign (line : UInt64) (target value : Expr) : Stmt := mk line (.assign [target] value)

def annAssign (line : UInt64) (target hint : Expr) (value : Option Expr) : Stmt :=
  mk line (.annAssign target hint value)

def branch (line : UInt64) (test : Expr) (body orelse : List Stmt) : Stmt :=
  mk line (.branch test body orelse)

def forLoop (line : UInt64) (target iter : Expr) (body : List Stmt) : Stmt :=
  mk line (.forLoop target iter body false)

def returning (line : UInt64) (value : Option Expr) : Stmt := mk line (.returning value)

def function (line : UInt64) (name : String) (params : List Param) (defaults : List Expr)
    (returns : Option Expr) (body : List Stmt) : Stmt :=
  mk line (.functionDef ⟨name, params, defaults, returns, [], false⟩ body)

end Stmt

def Expr.comparison (left : Expr) (op : CompareOp) (right : Expr) : Expr :=
  .compare left [op] [right]

end Snippet
