import Snippet.Data.Value
import Snippet.Tree.Basic

namespace Snippet

open Data (Value)

/-! The JSON form of a tree. A node that carries something is an object with the node's kind as its
only field; one that carries nothing is a string. -/

def Constant.toValue : Constant → Value
  | nothing => .string "none"
  | bool value => .object [("bool", .bool value)]
  | int value => .object [("int", .int value.toInt)]
  | float value => .object [("float", .ofDouble value)]
  | str value => .object [("str", .string value)]

mutual

def Expr.toValue : Expr → Value
  | .constant value => .object [("constant", value.toValue)]
  | .name ident => .object [("name", .string ident)]
  | .member value attr =>
    .object [("attribute", .object [("value", value.toValue), ("attr", .string attr)])]
  | .unary op operand =>
    .object [("unary_op", .object [("op", .string op.name), ("operand", operand.toValue)])]
  | .binary left op right =>
    .object [("bin_op", .object [("left", left.toValue), ("op", .string op.name),
      ("right", right.toValue)])]
  | .bool op values =>
    .object [("bool_op", .object [("op", .string op.name), ("values", .array (Expr.toValues values))])]
  | .call func args =>
    .object [("call", .object [("func", func.toValue), ("args", .array (Expr.toValues args))])]
  | .tuple elements => .object [("tuple", .array (Expr.toValues elements))]
  | .list elements => .object [("list", .array (Expr.toValues elements))]
  | .set elements => .object [("set", .array (Expr.toValues elements))]
  | .dict pairs => .object [("dict", .array (Expr.pairsToValues pairs))]
  | .compare left ops comparators =>
    .object [("compare", .object [("left", left.toValue),
      ("ops", .array (ops.map fun op => .string op.name)),
      ("comparators", .array (Expr.toValues comparators))])]
  | .conditional test body orelse =>
    .object [("if_exp", .object [("test", test.toValue), ("body", body.toValue),
      ("orelse", orelse.toValue)])]
  | .subscript value index =>
    .object [("subscript", .object [("value", value.toValue), ("slice", index.toValue)])]
  | .slice lower upper step =>
    .object [("slice", .object [("lower", Expr.optionToValue lower),
      ("upper", Expr.optionToValue upper), ("step", Expr.optionToValue step)])]
  | .starred value => .object [("starred", value.toValue)]
  | .matchValue value => .object [("match_value", value.toValue)]
  | .matchAs binder => .object [("match_as", .object [("name", Value.ofOption .string binder)])]

def Expr.toValues : List Expr → List Value
  | [] => []
  | expr :: rest => expr.toValue :: Expr.toValues rest

def Expr.pairsToValues : List (Expr × Expr) → List Value
  | [] => []
  | (key, value) :: rest => .array [key.toValue, value.toValue] :: Expr.pairsToValues rest

def Expr.optionToValue : Option Expr → Value
  | none => .null
  | some expr => expr.toValue

end

def Param.toValue (param : Param) : Value :=
  .object [("name", .string param.name), ("annotation", Expr.optionToValue param.hint)]

def Alias.toValue (imported : Alias) : Value :=
  .object [("name", .string imported.name), ("asname", Value.ofOption .string imported.asname)]

mutual

def Stmt.toValue : Stmt → Value
  | .mk line kind => .object [("line", .int line.toNat), ("kind", kind.toValue)]

def StmtKind.toValue : StmtKind → Value
  | .classDef name bases body =>
    .object [("class_def", .object [("name", .string name), ("bases", .array (Expr.toValues bases)),
      ("body", .array (Stmt.toValues body))])]
  | .functionDef header body =>
    .object [("function_def", .object [("name", .string header.name),
      ("params", .array (header.params.map Param.toValue)),
      ("defaults", .array (Expr.toValues header.defaults)),
      ("returns", Expr.optionToValue header.returns),
      ("body", .array (Stmt.toValues body)),
      ("decorators", .array (Expr.toValues header.decorators)),
      ("is_async", .bool header.isAsync)])]
  | .assign targets value =>
    .object [("assign", .object [("targets", .array (Expr.toValues targets)),
      ("value", value.toValue)])]
  | .annAssign target hint value =>
    .object [("ann_assign", .object [("target", target.toValue),
      ("annotation", hint.toValue), ("value", Expr.optionToValue value)])]
  | .augAssign target op value =>
    .object [("aug_assign", .object [("target", target.toValue), ("op", .string op.name),
      ("value", value.toValue)])]
  | .branch test body orelse =>
    .object [("if", .object [("test", test.toValue), ("body", .array (Stmt.toValues body)),
      ("orelse", .array (Stmt.toValues orelse))])]
  | .forLoop target iter body isAsync =>
    .object [("for", .object [("target", target.toValue), ("iter", iter.toValue),
      ("body", .array (Stmt.toValues body)), ("is_async", .bool isAsync)])]
  | .whileLoop test body =>
    .object [("while", .object [("test", test.toValue), ("body", .array (Stmt.toValues body))])]
  | .pass => .string "pass"
  | .breakLoop => .string "break"
  | .continueLoop => .string "continue"
  | .returning value => .object [("return", Expr.optionToValue value)]
  | .switch subject cases =>
    .object [("match", .object [("subject", subject.toValue),
      ("cases", .array (MatchCase.toValues cases))])]
  | .imports names => .object [("import", .array (names.map Alias.toValue))]
  | .importFrom module names =>
    .object [("import_from", .object [("module", Value.ofOption .string module),
      ("names", .array (names.map Alias.toValue))])]
  | .delete targets => .object [("delete", .array (Expr.toValues targets))]
  | .typeAlias name value =>
    .object [("type_alias", .object [("name", name.toValue), ("value", value.toValue)])]
  | .expr value => .object [("expr", value.toValue)]

def Stmt.toValues : List Stmt → List Value
  | [] => []
  | stmt :: rest => stmt.toValue :: Stmt.toValues rest

def MatchCase.toValue : MatchCase → Value
  | .mk line pattern body =>
    .object [("line", .int line.toNat), ("pattern", pattern.toValue),
      ("body", .array (Stmt.toValues body))]

def MatchCase.toValues : List MatchCase → List Value
  | [] => []
  | arm :: rest => arm.toValue :: MatchCase.toValues rest

end

def Program.toValue (program : Program) : Value :=
  .object [("body", .array (Stmt.toValues program.body))]

end Snippet
