import Snippet.Number.Numeral
import Snippet.Text.Quoted
import Snippet.Tree.Basic

namespace Snippet

open Text (dumpString)

/-! One-line dumps of tree nodes, which diagnostics show. -/

namespace Dump

def commas (items : List String) : String := String.intercalate ", " items

def listed (items : List String) : String := "[" ++ commas items ++ "]"

def wrapped (name : String) (items : List String) : String := name ++ "(" ++ commas items ++ ")"

def record (name : String) (fields : List (String × String)) : String :=
  name ++ " \x7b " ++ commas (fields.map fun (field, value) => field ++ ": " ++ value) ++ " \x7d"

def optional : Option String → String
  | none => "None"
  | some value => wrapped "Some" [value]

def flag (value : Bool) : String := if value then "true" else "false"

end Dump

open Dump

def Constant.dump : Constant → String
  | nothing => "None"
  | bool value => wrapped "Bool" [flag value]
  | int value => wrapped "Int" [toString value.toInt]
  | float value => wrapped "Float" [value.text .dump]
  | str value => wrapped "Str" [dumpString value]

mutual

def Expr.dump : Expr → String
  | .constant value => wrapped "Constant" [value.dump]
  | .name ident => wrapped "Name" [dumpString ident]
  | .member value attr =>
    record "Attribute" [("value", value.dump), ("attr", dumpString attr)]
  | .unary op operand => record "UnaryOp" [("op", op.name), ("operand", operand.dump)]
  | .binary left op right =>
    record "BinOp" [("left", left.dump), ("op", op.name), ("right", right.dump)]
  | .bool op values =>
    record "BoolOp" [("op", op.name), ("values", listed (Expr.dumpAll values))]
  | .call func args =>
    record "Call" [("func", func.dump), ("args", listed (Expr.dumpAll args))]
  | .tuple elements => wrapped "Tuple" [listed (Expr.dumpAll elements)]
  | .list elements => wrapped "List" [listed (Expr.dumpAll elements)]
  | .set elements => wrapped "Set" [listed (Expr.dumpAll elements)]
  | .dict pairs => wrapped "Dict" [listed (Expr.dumpPairs pairs)]
  | .compare left ops comparators =>
    record "Compare" [("left", left.dump), ("ops", listed (ops.map CompareOp.name)),
      ("comparators", listed (Expr.dumpAll comparators))]
  | .conditional test body orelse =>
    record "IfExp" [("test", test.dump), ("body", body.dump), ("orelse", orelse.dump)]
  | .subscript value index =>
    record "Subscript" [("value", value.dump), ("slice", index.dump)]
  | .slice lower upper step =>
    record "Slice" [("lower", Expr.dumpOptional lower), ("upper", Expr.dumpOptional upper),
      ("step", Expr.dumpOptional step)]
  | .starred value => wrapped "Starred" [value.dump]
  | .matchValue value => wrapped "MatchValue" [value.dump]
  | .matchAs binder => record "MatchAs" [("name", optional (binder.map dumpString))]

def Expr.dumpAll : List Expr → List String
  | [] => []
  | expr :: rest => expr.dump :: Expr.dumpAll rest

def Expr.dumpPairs : List (Expr × Expr) → List String
  | [] => []
  | (key, value) :: rest => wrapped "" [key.dump, value.dump] :: Expr.dumpPairs rest

def Expr.dumpOptional : Option Expr → String
  | none => optional none
  | some expr => optional (some expr.dump)

end

def Param.dump (param : Param) : String :=
  record "Param" [("name", dumpString param.name),
    ("annotation", Expr.dumpOptional param.hint)]

def Alias.dump (imported : Alias) : String :=
  record "Alias" [("name", dumpString imported.name),
    ("asname", optional (imported.asname.map dumpString))]

mutual

def Stmt.dump : Stmt → String
  | .mk line kind => record "Stmt" [("line", toString line.toNat), ("kind", kind.dump)]

def StmtKind.dump : StmtKind → String
  | .classDef name bases body =>
    record "ClassDef" [("name", dumpString name), ("bases", listed (Expr.dumpAll bases)),
      ("body", listed (Stmt.dumpAll body))]
  | .functionDef header body =>
    wrapped "FunctionDef" [record "FunctionDef" [("name", dumpString header.name),
      ("params", listed (header.params.map Param.dump)),
      ("defaults", listed (Expr.dumpAll header.defaults)),
      ("returns", Expr.dumpOptional header.returns),
      ("body", listed (Stmt.dumpAll body)),
      ("decorators", listed (Expr.dumpAll header.decorators)),
      ("is_async", flag header.isAsync)]]
  | .assign targets value =>
    record "Assign" [("targets", listed (Expr.dumpAll targets)), ("value", value.dump)]
  | .annAssign target hint value =>
    record "AnnAssign" [("target", target.dump), ("annotation", hint.dump),
      ("value", Expr.dumpOptional value)]
  | .augAssign target op value =>
    record "AugAssign" [("target", target.dump), ("op", op.name), ("value", value.dump)]
  | .branch test body orelse =>
    record "If" [("test", test.dump), ("body", listed (Stmt.dumpAll body)),
      ("orelse", listed (Stmt.dumpAll orelse))]
  | .forLoop target iter body isAsync =>
    record "For" [("target", target.dump), ("iter", iter.dump),
      ("body", listed (Stmt.dumpAll body)), ("is_async", flag isAsync)]
  | .whileLoop test body =>
    record "While" [("test", test.dump), ("body", listed (Stmt.dumpAll body))]
  | .pass => "Pass"
  | .breakLoop => "Break"
  | .continueLoop => "Continue"
  | .returning value => wrapped "Return" [Expr.dumpOptional value]
  | .switch subject cases =>
    record "Match" [("subject", subject.dump), ("cases", listed (MatchCase.dumpAll cases))]
  | .imports names => wrapped "Import" [listed (names.map Alias.dump)]
  | .importFrom module names =>
    record "ImportFrom" [("module", optional (module.map dumpString)),
      ("names", listed (names.map Alias.dump))]
  | .delete targets => wrapped "Delete" [listed (Expr.dumpAll targets)]
  | .typeAlias name value => record "TypeAlias" [("name", name.dump), ("value", value.dump)]
  | .expr value => wrapped "Expr" [value.dump]

def Stmt.dumpAll : List Stmt → List String
  | [] => []
  | stmt :: rest => stmt.dump :: Stmt.dumpAll rest

def MatchCase.dump : MatchCase → String
  | .mk line pattern body =>
    record "MatchCase" [("line", toString line.toNat), ("pattern", pattern.dump),
      ("body", listed (Stmt.dumpAll body))]

def MatchCase.dumpAll : List MatchCase → List String
  | [] => []
  | arm :: rest => arm.dump :: MatchCase.dumpAll rest

end

end Snippet
