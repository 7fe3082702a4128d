import Snippet.Data.Value
import Snippet.Tree.Basic

namespace Snippet

open Data (Value)

/-! Reading a tree from its JSON form. Fields that no node has are ignored, an absent optional field
is null, and whatever else is not the form of a tree is refused. -/

namespace Data.Value

/-- A line number or any other count that fits a machine word. -/
def word? (value : Value) : Option UInt64 := do
  let n ← value.int?
  guard (0 ≤ n ∧ n < Number.twoTo 64)
  return UInt64.ofNat n.toNat

def int64? (value : Value) : Option Int64 := do
  let n ← value.int?
  guard (-(Number.twoTo 63 : Int) ≤ n ∧ n < Number.twoTo 63)
  return Int64.ofInt n

def get? (name : String) (read : Value → Option α) (value : Value) : Option α :=
  (value.field? name).bind fun v => read v.1

/-- Reads an optional field: absent and null are no value, anything else has to be readable. -/
def getOptional? (name : String) (read : Value → Option α) (value : Value) : Option (Option α) :=
  match value.optionalField? name with
  | none => some none
  | some v => (read v.1).map some

def list? (read : Value → Option α) (value : Value) : Option (List α) :=
  value.elements?.bind (·.mapM fun v => read v.1)

/-- The name of a kind that carries nothing: bare, or with null. -/
def unitName? : Value → Option String
  | string name => some name
  | object [(name, null)] => some name
  | _ => none

end Data.Value

open Data.Value

def Constant.ofValue? (value : Value) : Option Constant :=
  if value.unitName? = some "none" then some .nothing
  else
    match value.tagged? with
    | some ("bool", v) => v.1.bool?.map .bool
    | some ("int", v) => v.1.int64?.map .int
    | some ("float", v) => v.1.double?.map .float
    | some ("str", v) => v.1.string?.map .str
    | _ => none

def Expr.ofValue? (value : Value) : Option Expr :=
  match value.tagged? with
  | none => none
  | some (tag, ⟨node, _⟩) =>
    match tag with
    | "constant" => (Constant.ofValue? node).map .constant
    | "name" => node.string?.map .name
    | "attribute" => do
      let ⟨owner, _⟩ ← node.field? "value"
      return .member (← Expr.ofValue? owner) (← node.get? "attr" string?)
    | "unary_op" => do
      let ⟨operand, _⟩ ← node.field? "operand"
      let op ← (← node.get? "op" unitName?) |> UnaryOp.ofName?
      return .unary op (← Expr.ofValue? operand)
    | "bin_op" => do
      let ⟨left, _⟩ ← node.field? "left"
      let ⟨right, _⟩ ← node.field? "right"
      let op ← (← node.get? "op" unitName?) |> BinaryOp.ofName?
      return .binary (← Expr.ofValue? left) op (← Expr.ofValue? right)
    | "bool_op" => do
      let ⟨values, _⟩ ← node.field? "values"
      let op ← (← node.get? "op" unitName?) |> BoolOp.ofName?
      return .bool op (← (← values.elements?).mapM fun ⟨v, _⟩ => Expr.ofValue? v)
    | "call" => do
      let ⟨func, _⟩ ← node.field? "func"
      let ⟨args, _⟩ ← node.field? "args"
      return .call (← Expr.ofValue? func) (← (← args.elements?).mapM fun ⟨v, _⟩ => Expr.ofValue? v)
    | "tuple" => do return .tuple (← (← node.elements?).mapM fun ⟨v, _⟩ => Expr.ofValue? v)
    | "list" => do return .list (← (← node.elements?).mapM fun ⟨v, _⟩ => Expr.ofValue? v)
    | "set" => do return .set (← (← node.elements?).mapM fun ⟨v, _⟩ => Expr.ofValue? v)
    | "dict" => do
      return .dict (← (← node.elements?).mapM fun ⟨pair, _⟩ => do
        match ← pair.elements? with
        | [⟨k, _⟩, ⟨v, _⟩] => return (← Expr.ofValue? k, ← Expr.ofValue? v)
        | _ => none)
    | "compare" => do
      let ⟨left, _⟩ ← node.field? "left"
      let ⟨comparators, _⟩ ← node.field? "comparators"
      let ops ← node.get? "ops" (list? fun op => op.unitName?.bind CompareOp.ofName?)
      return .compare (← Expr.ofValue? left) ops
        (← (← comparators.elements?).mapM fun ⟨v, _⟩ => Expr.ofValue? v)
    | "if_exp" => do
      let ⟨test, _⟩ ← node.field? "test"
      let ⟨body, _⟩ ← node.field? "body"
      let ⟨orelse, _⟩ ← node.field? "orelse"
      return .conditional (← Expr.ofValue? test) (← Expr.ofValue? body) (← Expr.ofValue? orelse)
    | "subscript" => do
      let ⟨owner, _⟩ ← node.field? "value"
      let ⟨index, _⟩ ← node.field? "slice"
      return .subscript (← Expr.ofValue? owner) (← Expr.ofValue? index)
    | "slice" =>
      if node.isObject then do
        let lower ← (node.optionalField? "lower").mapM fun ⟨v, _⟩ => Expr.ofValue? v
        let upper ← (node.optionalField? "upper").mapM fun ⟨v, _⟩ => Expr.ofValue? v
        let step ← (node.optionalField? "step").mapM fun ⟨v, _⟩ => Expr.ofValue? v
        return .slice lower upper step
      else none
    | "starred" => (Expr.ofValue? node).map .starred
    | "match_value" => (Expr.ofValue? node).map .matchValue
    | "match_as" =>
      if node.isObject then (node.getOptional? "name" string?).map .matchAs else none
    | _ => none
termination_by sizeOf value
decreasing_by all_goals omega

def Param.ofValue? (value : Value) : Option Param := do
  return ⟨← value.get? "name" string?, ← value.getOptional? "annotation" Expr.ofValue?⟩

def Alias.ofValue? (value : Value) : Option Alias := do
  return ⟨← value.get? "name" string?, ← value.getOptional? "asname" string?⟩

def FunctionHeader.ofValue? (value : Value) : Option FunctionHeader := do
  return {
    name := ← value.get? "name" string?
    params := ← value.get? "params" (list? Param.ofValue?)
    defaults := ← value.get? "defaults" (list? Expr.ofValue?)
    returns := ← value.getOptional? "returns" Expr.ofValue?
    decorators := ← value.get? "decorators" (list? Expr.ofValue?)
    isAsync := ← value.get? "is_async" bool? }

mutual

def Stmt.ofValue? (value : Value) : Option Stmt := do
  let ⟨kind, _⟩ ← value.field? "kind"
  return .mk (← value.get? "line" word?) (← StmtKind.ofValue? kind)
termination_by sizeOf value
decreasing_by all_goals omega

def StmtKind.ofValue? (value : Value) : Option StmtKind :=
  if value.unitName? = some "pass" then some .pass
  else if value.unitName? = some "break" then some .breakLoop
  else if value.unitName? = some "continue" then some .continueLoop
  else
    match value.tagged? with
    | none => none
    | some (tag, ⟨node, _⟩) =>
      match tag with
      | "class_def" => do
        let ⟨body, _⟩ ← node.field? "body"
        return .classDef (← node.get? "name" string?) (← node.get? "bases" (list? Expr.ofValue?))
          (← (← body.elements?).mapM fun ⟨v, _⟩ => Stmt.ofValue? v)
      | "function_def" => do
        let ⟨body, _⟩ ← node.field? "body"
        return .functionDef (← FunctionHeader.ofValue? node)
          (← (← body.elements?).mapM fun ⟨v, _⟩ => Stmt.ofValue? v)
      | "assign" => do
        return .assign (← node.get? "targets" (list? Expr.ofValue?))
          (← node.get? "value" Expr.ofValue?)
      | "ann_assign" => do
        return .annAssign (← node.get? "target" Expr.ofValue?)
          (← node.get? "annotation" Expr.ofValue?) (← node.getOptional? "value" Expr.ofValue?)
      | "aug_assign" => do
        let op ← (← node.get? "op" unitName?) |> BinaryOp.ofName?
        return .augAssign (← node.get? "target" Expr.ofValue?) op
          (← node.get? "value" Expr.ofValue?)
      | "if" => do
        let ⟨body, _⟩ ← node.field? "body"
        let ⟨orelse, _⟩ ← node.field? "orelse"
        return .branch (← node.get? "test" Expr.ofValue?)
          (← (← body.elements?).mapM fun ⟨v, _⟩ => Stmt.ofValue? v)
          (← (← orelse.elements?).mapM fun ⟨v, _⟩ => Stmt.ofValue? v)
      | "for" => do
        let ⟨body, _⟩ ← node.field? "body"
        return .forLoop (← node.get? "target" Expr.ofValue?) (← node.get? "iter" Expr.ofValue?)
          (← (← body.elements?).mapM fun ⟨v, _⟩ => Stmt.ofValue? v)
          (← node.get? "is_async" bool?)
      | "while" => do
        let ⟨body, _⟩ ← node.field? "body"
        return .whileLoop (← node.get? "test" Expr.ofValue?)
          (← (← body.elements?).mapM fun ⟨v, _⟩ => Stmt.ofValue? v)
      | "return" =>
        if node.isNull then some (.returning none)
        else (Expr.ofValue? node).map fun v => .returning (some v)
      | "match" => do
        let ⟨cases, _⟩ ← node.field? "cases"
        return .switch (← node.get? "subject" Expr.ofValue?)
          (← (← cases.elements?).mapM fun ⟨v, _⟩ => MatchCase.ofValue? v)
      | "import" => (list? Alias.ofValue? node).map .imports
      | "import_from" => do
        return .importFrom (← node.getOptional? "module" string?)
          (← node.get? "names" (list? Alias.ofValue?))
      | "delete" => (list? Expr.ofValue? node).map .delete
      | "type_alias" => do
        return .typeAlias (← node.get? "name" Expr.ofValue?) (← node.get? "value" Expr.ofValue?)
      | "expr" => (Expr.ofValue? node).map .expr
      | _ => none
termination_by sizeOf value
decreasing_by all_goals omega

def MatchCase.ofValue? (value : Value) : Option MatchCase := do
  let ⟨body, _⟩ ← value.field? "body"
  return .mk (← value.get? "line" word?) (← value.get? "pattern" Expr.ofValue?)
    (← (← body.elements?).mapM fun ⟨v, _⟩ => Stmt.ofValue? v)
termination_by sizeOf value
decreasing_by all_goals omega

end

def Program.ofValue? (value : Value) : Option Program := do
  return ⟨← value.get? "body" (list? Stmt.ofValue?)⟩

end Snippet
