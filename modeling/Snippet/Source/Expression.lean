import Snippet.Source.Kind
import Snippet.Source.Literal
import Snippet.Text.Blank

namespace Snippet.Source

namespace Node

section Forms

/-- The tuple of several values, or the only one. -/
def joined : List Expr → Expr
  | [value] => value
  | values => .tuple values

/-! The functions below read the forms of expressions. They take a reader for the nodes inside. -/

variable (node : Node) (read : node.Inner → Except ReadError Expr)

/-- `base[params]` where a type stands. -/
def readGenericType : Except ReadError Expr :=
  match node.parts with
  | [base, params] => do
    let args ← params.val.parts.mapM fun arg => read (params.within arg)
    return .subscript (← read base) (joined args)
  | _ => .error (.incomplete .genericType)

def readUnionType : Except ReadError Expr :=
  match node.parts with
  | [left, right] => do return .binary (← read left) .bitOr (← read right)
  | _ => .error (.incomplete .unionType)

def readMemberType : Except ReadError Expr :=
  match node.parts with
  | [object, member] => do return .member (← read object) member.val.text
  | _ => .error (.incomplete .memberType)

/-- What the operator of a node spells, or an error with the text of it. -/
def readOperator {α : Type} (sort : OperatorSort) (ofSymbol? : String → Option α) :
    Except ReadError α := do
  let operator ← node.field "operator"
  match ofSymbol? operator.val.text with
  | some op => return op
  | none => throw (.unknownOperator sort operator.val.text)

def readBinary : Except ReadError Expr := do
  let op ← node.readOperator .binary BinaryOp.ofSymbol?
  let left ← read (← node.field "left")
  return .binary left op (← read (← node.field "right"))

def signOf? : String → Option UnaryOp
  | "-" => some .minus
  | "+" => some .plus
  | "~" => some .invert
  | _ => none

def readUnary : Except ReadError Expr := do
  let op ← node.readOperator .unary signOf?
  return .unary op (← read (← node.field "argument"))

/-! ### Comparisons -/

/-- A comparison up to one of its children: the operands and the operators so far, and the words of
an operator whose right operand has not come yet. -/
structure Comparison where
  operands : List Expr
  ops : List CompareOp
  pending : List String

/-- The operators with the pending one behind them. -/
def Comparison.settledOps (found : Comparison) : Except ReadError (List CompareOp) :=
  if found.pending.isEmpty then .ok found.ops
  else
    let symbol := " ".intercalate found.pending
    match CompareOp.ofSymbol? symbol with
    | some op => .ok (found.ops ++ [op])
    | none => .error (.unknownOperator .comparison symbol)

/-- A comparison with one more child. An operator of two words may come as one token or as two. -/
def Comparison.add {node : Node} (read : node.Inner → Except ReadError Expr) (found : Comparison)
    (child : node.Inner) : Except ReadError Comparison :=
  if child.val.kind = "comment" then .ok found
  else if child.val.named then do
    let ops ← found.settledOps
    return ⟨found.operands ++ [← read child], ops, []⟩
  else
    let words := (Text.words child.val.text.toList).map String.ofList
    .ok { found with pending := found.pending ++ words }

/-- The comparison, if it has an operator between any two operands. -/
def Comparison.whole (found : Comparison) : Except ReadError Expr :=
  if found.operands.length < 2 || found.ops.length != found.operands.length - 1 then
    .error (.incomplete .comparison)
  else
    match found.operands with
    | left :: comparators => .ok (.compare left found.ops comparators)
    | [] => .error (.incomplete .leftOperand)

def readComparison : Except ReadError Expr := do
  let found ← node.inner.foldlM (Comparison.add read) ⟨[], [], []⟩
  found.whole

/-! ### Chains -/

def chainOf? : String → Option BoolOp
  | "and" => some .and
  | "or" => some .or
  | _ => none

/-- The operands of a side of a chain: those of the side, when it is itself a chain of the same
operator without parentheses around it, or else the side. -/
def chained (op : BoolOp) (side : Node) : Expr → List Expr
  | .bool inner values =>
    if inner = op ∧ side.kind = "boolean_operator" then values else [.bool inner values]
  | value => [value]

def readChain : Except ReadError Expr := do
  let op ← node.readOperator .boolean chainOf?
  let left ← node.field "left"
  let right ← node.field "right"
  let leftValue ← read left
  let rightValue ← read right
  return .bool op (chained op left.val leftValue ++ chained op right.val rightValue)

/-! ### Calls and subscripts -/

def readArgument (arg : node.Inner) : Except ReadError Expr :=
  match arg.val.kind with
  | "keyword_argument" => arg.val.refuse .keywordArgument
  | "dictionary_splat" => arg.val.refuse .keywordSplat
  | _ => read arg

def readCall : Except ReadError Expr := do
  let func ← read (← node.field "function")
  let arguments ← node.field "arguments"
  if arguments.val.kind ≠ "argument_list" then arguments.val.refuse .generatorArgument
  else return .call func (← arguments.val.parts.mapM fun arg =>
    node.readArgument read (arguments.within arg))

/-- The value of the nodes in a field, as a tuple of them if they are several. -/
def readJoined (name : String) (gap : Gap) : Except ReadError Expr :=
  match node.fields name with
  | [] => .error (.incomplete gap)
  | values => do return joined (← values.mapM read)

def readSubscript : Except ReadError Expr := do
  let value ← read (← node.field "value")
  return .subscript value (← node.readJoined read "subscript" .index)

/-- The parts of `lower:upper:step` so far, and the colons before the next one. -/
structure SliceParts where
  colons : Nat
  lower : Option Expr
  upper : Option Expr
  step : Option Expr

def SliceParts.add {node : Node} (read : node.Inner → Except ReadError Expr) (found : SliceParts)
    (child : node.Inner) : Except ReadError SliceParts :=
  if child.val.kind = ":" then .ok { found with colons := found.colons + 1 }
  else if child.val.isPart then
    match found.colons with
    | 0 => do return { found with lower := some (← read child) }
    | 1 => do return { found with upper := some (← read child) }
    | 2 => do return { found with step := some (← read child) }
    | _ => .ok found
  else .ok found

def readSlice : Except ReadError Expr := do
  let found ← node.inner.foldlM (SliceParts.add read) ⟨0, none, none, none⟩
  return .slice found.lower found.upper found.step

/-! ### Other forms -/

def readEntry (entry : node.Inner) : Except ReadError (Expr × Expr) :=
  if entry.val.kind ≠ "pair" then entry.val.refuse .dictionarySplat
  else do
    let key ← read (entry.within (← entry.val.field "key"))
    return (key, ← read (entry.within (← entry.val.field "value")))

/-- `body if test else orelse`, of which the test is read first. -/
def readConditional : Except ReadError Expr :=
  match node.parts with
  | [body, test, orelse] => do
    let testRead ← read test
    let bodyRead ← read body
    return .conditional testRead bodyRead (← read orelse)
  | _ => .error (.incomplete .conditional)

/-- An expression, by the kind of its node. -/
def readForm : Except ReadError Expr :=
  match ExprKind.ofName? node.kind with
  | some .integer => readInteger node.line node.text
  | some .float => readFloat node.line node.text
  | some .string => do return .constant (.str (← node.readString))
  | some .concatenatedString => do
    return .constant (.str (String.join (← node.parts.mapM fun part => part.val.readString)))
  | some .truth => .ok (.constant (.bool true))
  | some .falsity => .ok (.constant (.bool false))
  | some .nothing => .ok (.constant .nothing)
  | some .identifier | some .keywordIdentifier => .ok (.name node.text)
  | some .type => do read (← node.part .hint)
  | some .genericType => node.readGenericType read
  | some .unionType => node.readUnionType read
  | some .memberType => node.readMemberType read
  | some .binaryOperator => node.readBinary read
  | some .comparisonOperator => node.readComparison read
  | some .booleanOperator => node.readChain read
  | some .unaryOperator => node.readUnary read
  | some .notOperator => do return .unary .not (← read (← node.field "argument"))
  | some .call => node.readCall read
  | some .member => do
    let object ← read (← node.field "object")
    return .member object (← node.field "attribute").val.text
  | some .subscript => node.readSubscript read
  | some .slice => node.readSlice read
  | some .list => do return .list (← node.parts.mapM read)
  | some .tuple | some .expressionList | some .patternList => do
    return .tuple (← node.parts.mapM read)
  | some .set => do return .set (← node.parts.mapM read)
  | some .dictionary => do return .dict (← node.parts.mapM (node.readEntry read))
  | some .listSplat | some .listSplatPattern => do return .starred (← read (← node.part .splat))
  | some .parenthesizedExpression => do read (← node.part .parentheses)
  | some .conditionalExpression => node.readConditional read
  | none => node.refuse .expression

end Forms

def readExpr (node : Node) : Except ReadError Expr := node.readForm fun inner => inner.val.readExpr
termination_by node
decreasing_by exact inner.property

/-- The target of an assignment or of a loop, which may be a pattern. -/
def readTarget (node : Node) : Except ReadError Expr :=
  if node.kind = "pattern_list" ∨ node.kind = "tuple_pattern" then do
    return .tuple (← node.parts.mapM fun item => item.val.readTarget)
  else if node.kind = "list_pattern" then do
    return .list (← node.parts.mapM fun item => item.val.readTarget)
  else if node.kind = "list_splat_pattern" then do
    let inner ← node.part .splat
    return .starred (← inner.val.readTarget)
  else node.readExpr
termination_by node
decreasing_by
  · exact item.property
  · exact item.property
  · exact inner.property

end Node

end Snippet.Source
