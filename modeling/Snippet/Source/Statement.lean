import Snippet.Source.Expression

namespace Snippet.Source

namespace Node

/-! ### Assignments -/

/-- The further targets of a chained assignment, and the node of its value. -/
def readTargets (right : Node) : Except ReadError (List Expr × Node) :=
  if right.kind = "assignment" then
    if (right.field? "type").isSome then right.refuse .annotatedChain
    else do
      let target ← (← right.field "left").val.readTarget
      let inner ← right.field "right"
      let (more, value) ← inner.val.readTargets
      return (target :: more, value)
  else .ok ([], right)
termination_by right
decreasing_by exact inner.property

def readOptional (node : Node) (name : String) : Except ReadError (Option Expr) :=
  match node.field? name with
  | some inner => do return some (← inner.val.readExpr)
  | none => .ok none

def readAssignment (node : Node) : Except ReadError StmtKind := do
  let target ← (← node.field "left").val.readTarget
  match node.field? "type" with
  | some hint => do
    let value ← node.readOptional "right"
    return .annAssign target (← hint.val.readExpr) value
  | none => do
    let (more, value) ← (← node.field "right").val.readTargets
    if value.kind = "augmented_assignment" then value.refuse .augmentedChain
    else return .assign (target :: more) (← value.readExpr)

/-- The operator of an augmented assignment, before its equals sign. -/
def augmentedOf? (text : String) : Option BinaryOp := do
  let reversed ← Text.rest? ['='] text.toList.reverse
  BinaryOp.ofSymbol? (String.ofList reversed.reverse)

def readAugmentedAssignment (node : Node) : Except ReadError StmtKind := do
  let op ← node.readOperator .augmented augmentedOf?
  let target ← (← node.field "left").val.readTarget
  return .augAssign target op (← (← node.field "right").val.readExpr)

def readExpressionStatement (node : Node) : Except ReadError StmtKind :=
  match node.parts with
  | [] => .error (.incomplete .statement)
  | [only] =>
    match only.val.kind with
    | "assignment" => only.val.readAssignment
    | "augmented_assignment" => only.val.readAugmentedAssignment
    | _ => do return .expr (← only.val.readExpr)
  | items => do return .expr (.tuple (← items.mapM fun item => item.val.readExpr))

/-! ### Parameters -/

/-- A parameter, and its default if it has one. -/
def readParameter (node : Node) : Except ReadError (Param × Option Expr) :=
  match node.kind with
  | "identifier" => .ok (⟨node.text, none⟩, none)
  | "typed_parameter" =>
    match node.parts with
    | name :: _ =>
      if name.val.kind = "identifier" then do
        let hint ← (← node.field "type").val.readExpr
        return (⟨name.val.text, some hint⟩, none)
      else node.refuse .splatParameter
    | [] => node.refuse .splatParameter
  | "default_parameter" => do
    let name ← node.field "name"
    if name.val.kind ≠ "identifier" then node.refuse .destructuringParameter
    else
      let value ← (← node.field "value").val.readExpr
      return (⟨name.val.text, none⟩, some value)
  | "typed_default_parameter" => do
    let name ← node.field "name"
    let hint ← (← node.field "type").val.readExpr
    let value ← (← node.field "value").val.readExpr
    return (⟨name.val.text, some hint⟩, some value)
  | _ => node.refuse .parameter

/-- The parameters, and the defaults among them in order. -/
def readParameters : List Node → Except ReadError (List Param × List Expr)
  | [] => .ok ([], [])
  | first :: more => do
    let (param, default) ← first.readParameter
    let (params, defaults) ← readParameters more
    return (param :: params, default.toList ++ defaults)

/-- The nodes of the parameters of a function. -/
def parameters (node : Node) : List Node :=
  match node.field? "parameters" with
  | some params => params.val.parts.map (·.val)
  | none => []

def isAsync (node : Node) : Bool := node.children.any (·.kind == "async")

def readHeader (node : Node) (decorators : List Expr) : Except ReadError FunctionHeader := do
  let name ← node.field "name"
  let (params, defaults) ← readParameters node.parameters
  let returns ← node.readOptional "return_type"
  return ⟨name.val.text, params, defaults, returns, decorators, node.isAsync⟩

/-! ### Patterns -/

/-- A dotted name as a pattern. One name is captured, and an underscore is the wildcard. -/
def dottedPattern : List String → Except ReadError Expr
  | [] => .error (.incomplete .dottedName)
  | [name] => .ok (.matchAs (if name = "_" then none else some name))
  | first :: more => .ok (.matchValue (more.foldl .member (.name first)))

/-- A pattern of an arm. A pattern without a named node is the wildcard. -/
def readPattern (node : Node) : Except ReadError Expr :=
  match node.parts with
  | [] => .ok (.matchAs none)
  | inner :: _ =>
    match inner.val.kind with
    | "dotted_name" => dottedPattern (inner.val.parts.map (·.val.text))
    | "integer" | "float" => do
      let value ← inner.val.readExpr
      let negative := (Text.dropBlanks node.text.toList).head? == some '-'
      return .matchValue (if negative then .unary .minus value else value)
    | "string" | "concatenated_string" | "true" | "false" | "none" => do
      return .matchValue (← inner.val.readExpr)
    | _ => inner.val.refuse .casePattern

/-! ### Imports and other statements without a body -/

def readAlias (node : Node) : Except ReadError Alias :=
  match node.kind with
  | "aliased_import" => do
    let name ← node.field "name"
    return ⟨name.val.text, some (← node.field "alias").val.text⟩
  | _ => .ok ⟨node.text, none⟩

def readImportNames (node : Node) : Except ReadError (List Alias) :=
  (node.fields "name").mapM fun name => name.val.readAlias

def readImportFrom (node : Node) : Except ReadError StmtKind := do
  let module ← node.field "module_name"
  if module.val.kind = "relative_import" then module.val.refuse .relativeImport
  else if node.parts.any (·.val.kind == "wildcard_import") then
    return .importFrom (some module.val.text) [⟨"*", none⟩]
  else return .importFrom (some module.val.text) (← node.readImportNames)

/-- The targets of a `del` statement; a lone tuple stands for its elements. -/
def deleted : Expr → List Expr
  | .tuple elements => elements
  | target => [target]

def readDelete (node : Node) : Except ReadError StmtKind := do
  let target ← node.part .deletion
  return .delete (deleted (← target.val.readExpr))

/-- The name and the value of a type alias, from its fields or else from its two parts. -/
def typeAliasParts (node : Node) : Except ReadError (node.Inner × node.Inner) :=
  match node.field? "left", node.field? "right" with
  | some name, some value => .ok (name, value)
  | _, _ =>
    match node.parts with
    | [name, value] => .ok (name, value)
    | _ => .error (.incomplete .typeAlias)

def readTypeAlias (node : Node) : Except ReadError StmtKind := do
  let (name, value) ← node.typeAliasParts
  let nameRead ← name.val.readExpr
  return .typeAlias nameRead (← value.val.readExpr)

def readReturn (node : Node) : Except ReadError StmtKind :=
  match node.parts with
  | [] => .ok (.returning none)
  | value :: _ => do return .returning (some (← value.val.readExpr))

def readBase (node : Node) : Except ReadError Expr :=
  if node.kind = "keyword_argument" then node.refuse .classKeyword else node.readExpr

def readBases (node : Node) : Except ReadError (List Expr) :=
  match node.field? "superclasses" with
  | some bases => bases.val.parts.mapM fun base => base.val.readBase
  | none => .ok []

def readDecorator (node : Node) : Except ReadError Expr := do
  (← node.part .decorator).val.readExpr

/-- The decorators of a definition; anything else beside it is passed over. -/
def readDecorators (node : Node) : Except ReadError (List Expr) :=
  (node.parts.filter (·.val.kind == "decorator")).mapM fun part => part.val.readDecorator

/-! ### Chains of branches -/

/-- An `elif` clause that has been read. -/
structure TestedBody where
  line : UInt64
  test : Expr
  body : List Stmt

/-- The statements of an `else`, with one more nested `if` around them for each `elif`. -/
def nested : List TestedBody → List Stmt → List Stmt
  | [], orelse => orelse
  | ⟨line, test, body⟩ :: more, orelse => [.branch line test body (nested more orelse)]

section Forms

/-! The functions below read the forms of statements. They take a reader for the statements inside. -/

variable (node : Node) (read : node.Inner → Except ReadError Stmt)

/-- The statements of a block. -/
def readBlock (block : node.Inner) : Except ReadError (List Stmt) :=
  block.val.parts.mapM fun stmt => read (block.within stmt)

/-- The test and the statements of an `if` or `elif` clause. -/
def readTested (clause : node.Inner) : Except ReadError TestedBody := do
  let test ← (← clause.val.field "condition").val.readExpr
  let body ← node.readBlock read (clause.within (← clause.val.field "consequence"))
  return ⟨clause.val.line, test, body⟩

/-- The `elif` clauses of a chain, and the statements of its `else`. What comes after an `else` is
passed over. -/
def readAlternatives : List node.Inner → Except ReadError (List TestedBody × List Stmt)
  | [] => .ok ([], [])
  | clause :: rest =>
    match clause.val.kind with
    | "elif_clause" => do
      let tested ← node.readTested read clause
      let (more, orelse) ← readAlternatives rest
      return (tested :: more, orelse)
    | "else_clause" => do
      let body ← clause.val.field "body"
      return ([], ← node.readBlock read (clause.within body))
    | other => .error (.unexpected "elif_clause or else_clause" other)

def readIf : Except ReadError StmtKind := do
  let test ← (← node.field "condition").val.readExpr
  let body ← node.readBlock read (← node.field "consequence")
  let (elifs, orelse) ← node.readAlternatives read (node.fields "alternative")
  return .branch test body (nested elifs orelse)

/-! ### Loops and definitions -/

def readWhile : Except ReadError StmtKind :=
  if (node.field? "alternative").isSome then node.refuse .whileElse
  else do
    let test ← (← node.field "condition").val.readExpr
    return .whileLoop test (← node.readBlock read (← node.field "body"))

def readFor : Except ReadError StmtKind :=
  if (node.field? "alternative").isSome then node.refuse .forElse
  else do
    let item ← (← node.field "left").val.readTarget
    let iter ← (← node.field "right").val.readExpr
    return .forLoop item iter (← node.readBlock read (← node.field "body")) node.isAsync

def readFunction (decorators : List Expr) : Except ReadError StmtKind := do
  let header ← node.readHeader decorators
  return .functionDef header (← node.readBlock read (← node.field "body"))

def readClass : Except ReadError StmtKind := do
  let name ← node.field "name"
  let bases ← node.readBases
  return .classDef name.val.text bases (← node.readBlock read (← node.field "body"))

/-- A definition with its decorators, on the line of its own. Those of a class are read and dropped. -/
def readDecorated : Except ReadError Stmt := do
  let definition ← node.field "definition"
  let decorators ← node.readDecorators
  let inside := fun inner => read (definition.within inner)
  match definition.val.kind with
  | "function_definition" =>
    return .mk definition.val.line (← definition.val.readFunction inside decorators)
  | "class_definition" => return .mk definition.val.line (← definition.val.readClass inside)
  | other => throw (.unexpected "function or class definition" other)

/-! ### Arms -/

def readArm (clause : node.Inner) : Except ReadError MatchCase :=
  if clause.val.kind ≠ "case_clause" then .error (.unexpected "case_clause" clause.val.kind)
  else if (clause.val.field? "guard").isSome then clause.val.refuse .caseGuard
  else
    match clause.val.parts.filter (·.val.kind == "case_pattern") with
    | [pattern] => do
      let patternRead ← pattern.val.readPattern
      let body ← clause.val.field "consequence"
      return .mk clause.val.line patternRead (← node.readBlock read (clause.within body))
    | _ => clause.val.refuse .sequencePattern

def readMatch : Except ReadError StmtKind := do
  let subject ← node.readJoined (fun inner => inner.val.readExpr) "subject" .subject
  let body ← node.field "body"
  return .switch subject (← body.val.parts.mapM fun clause => node.readArm read (body.within clause))

/-- A statement that is on the line of its own node, by the kind of the node. -/
def readKind : Except ReadError StmtKind :=
  match StatementKind.ofName? node.kind with
  | some .expressionStatement => node.readExpressionStatement
  | some .assignment => node.readAssignment
  | some .augmentedAssignment => node.readAugmentedAssignment
  | some .ifStatement => node.readIf read
  | some .forStatement => node.readFor read
  | some .whileStatement => node.readWhile read
  | some .returnStatement => node.readReturn
  | some .passStatement => .ok .pass
  | some .breakStatement => .ok .breakLoop
  | some .continueStatement => .ok .continueLoop
  | some .functionDefinition => node.readFunction read []
  | some .classDefinition => node.readClass read
  | some .matchStatement => node.readMatch read
  | some .importStatement => do return .imports (← node.readImportNames)
  | some .importFromStatement => node.readImportFrom
  | some .deleteStatement => node.readDelete
  | some .typeAliasStatement => node.readTypeAlias
  | some .withStatement | some .tryStatement | some .globalStatement | some .nonlocalStatement
  | some .raiseStatement | some .assertStatement | some .printStatement | some .execStatement
  | some .futureImportStatement => node.refuse .statement
  | none => do return .expr (← node.readExpr)

def readStatement : Except ReadError Stmt :=
  if node.kind = "decorated_definition" then node.readDecorated read
  else do return .mk node.line (← node.readKind read)

end Forms

def readStmt (node : Node) : Except ReadError Stmt := node.readStatement fun inner => inner.val.readStmt
termination_by node
decreasing_by exact inner.property

def readStmts (node : Node) : Except ReadError (List Stmt) :=
  node.parts.mapM fun stmt => stmt.val.readStmt

end Node

/-- The language of sources, and the endings of the names of its files. -/
def language : String := "python"

def extensions : List String := ["py"]

def Tree.read (tree : Tree) : Except ReadError Program :=
  if tree.hasError then .error .invalidSource else do return ⟨← tree.root.readStmts⟩

end Snippet.Source

namespace Snippet

/-- The program of a source, by the tree that a parser makes of it. -/
def Program.ofSource (parser : Source.Parser) (source : String) : Except Source.ReadError Program :=
  match parser.fault? with
  | some reason => .error (.noParser reason)
  | none =>
    match parser.tree? source with
    | none => .error .noTree
    | some tree => tree.read

end Snippet
