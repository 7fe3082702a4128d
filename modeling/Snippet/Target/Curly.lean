import Snippet.Number.Numeral
import Snippet.Render.Scope
import Snippet.Target.Basic
import Snippet.Text.Affix
import Snippet.Text.Naming
import Snippet.Text.Quoted
import Snippet.Tree.Basic

namespace Snippet

open Layout (Step BraceStyle)
open Render (Surroundings)
open Text (trimUnderscores lowerCamel jsonString argumentsOf?)

/-- Operators in the spelling that languages with braces share. -/
def Operator.curlySpelling : Operator → String
  | compare .equal | compare .is => "=="
  | compare .notEqual | compare .isNot => "!="
  | compare .less => "<"
  | compare .lessEqual => "<="
  | compare .greater => ">"
  | compare .greaterEqual => ">="
  | compare .isIn => "<in>"
  | compare .notIn => "<not in>"
  | binary .add => "+"
  | binary .sub => "-"
  | binary .mult | binary .matMult => "*"
  | binary .div => "/"
  | binary .mod => "%"
  | binary .leftShift => "<<"
  | binary .rightShift => ">>"
  | binary .bitOr => "|"
  | binary .bitXor => "^"
  | binary .bitAnd => "&"
  | binary .floorDiv => "//"
  | binary .pow => "**"
  | unary .invert => "~"
  | unary .not => "!"
  | unary .plus => "+"
  | unary .minus => "-"
  | bool .and => "&&"
  | bool .or => "||"

namespace Dialect

/-! Expressions. -/

/-- TypeScript tells identity from equality. -/
def operator : Dialect → Operator → String
  | typeScript _, .compare .is => "==="
  | typeScript _, .compare .isNot => "!=="
  | _, op => op.curlySpelling

theorem operator_eq_curlySpelling (dialect : Dialect) {op : Operator} (his : op ≠ .compare .is)
    (hisNot : op ≠ .compare .isNot) : dialect.operator op = op.curlySpelling := by
  cases dialect with
  | cpp => rfl
  | typeScript typed =>
      rw [operator]
      · exact fun _ _ => his
      · exact fun _ _ => hisNot

def keywords : Dialect → List String
  | cpp => ["or"]
  | typeScript _ => ["in"]

/-- The spelling of an identifier: no underscores at the ends, one put back after a keyword, and
camel case in TypeScript. -/
def styledName (dialect : Dialect) (name : String) : String :=
  let trimmed := trimUnderscores name
  if dialect.keywords.contains trimmed then trimmed ++ "_"
  else
    match dialect with
    | cpp => trimmed
    | typeScript _ => lowerCamel trimmed

/-- Where nothing stands for a type it is `void`. -/
def constant (dialect : Dialect) (value : Constant) (asType : Bool) : String :=
  match value with
  | .nothing =>
    if asType then "void"
    else
      match dialect with
      | cpp => "nullptr"
      | typeScript _ => "null"
  | .bool value => if value then "true" else "false"
  | .int value => toString value.toInt
  | .float value => value.text .code
  | .str value => jsonString value

/-- The well-known names that the language spells in its own way. -/
def rename? : Dialect → String → Option String
  | cpp, name => if ["min", "max", "round"].contains name then some ("std::" ++ name) else none
  | typeScript _, "math" => some "Math"
  | typeScript _, "NVector" => some "Vector"
  | typeScript _, name => if ["min", "max"].contains name then some ("Math." ++ name) else none

/-- A name where it stands; inside a class `self` is the object itself. -/
def name (dialect : Dialect) (around : Surroundings) (name : String) : String :=
  match dialect.rename? name with
  | some renamed => renamed
  | none => if around.inClass && name == "self" then "this" else dialect.styledName name

def member (dialect : Dialect) (object name : String) : String :=
  match dialect, object with
  | cpp, "math" => if name = "pi" then "std::numbers::pi" else "std::" ++ name
  | cpp, "this" => "this->" ++ dialect.styledName name
  | typeScript _, object =>
    if object = "Math" ∧ name = "pi" then "Math.PI" else object ++ "." ++ dialect.styledName name
  | _, _ => object ++ "." ++ dialect.styledName name

def links (dialect : Dialect) : String → List (Operator × String) → List String
  | _, [] => []
  | left, (op, right) :: rest =>
    (left ++ " " ++ dialect.operator op ++ " " ++ right) :: links dialect right rest

/-- A chain of comparisons; unless it is a single one, the conjunction of its links in
parentheses. -/
def compare (dialect : Dialect) (left : String) (rest : List (Operator × String)) : String :=
  match dialect.links left rest with
  | [link] => link
  | links => "(" ++ String.intercalate " && " links ++ ")"

/-- Whether a callee reads as the name of a class. -/
def isConstructor (func : String) : Bool :=
  match func.toList with
  | [] => false
  | c :: rest => c.isUpper && rest.all Char.isAlphanum

def call (dialect : Dialect) (func : String) (args : List String) : String :=
  let plain := func ++ "(" ++ commaList args ++ ")"
  match dialect with
  | cpp => plain
  | typeScript _ => if isConstructor func then "new " ++ plain else plain

def sequence (dialect : Dialect) (kind : SequenceKind) (elements : List String) : String :=
  match dialect, kind with
  | cpp, _ => "\x7b" ++ commaList elements ++ "\x7d"
  | typeScript _, .set => "new Set([" ++ commaList elements ++ "])"
  | typeScript _, _ => "[" ++ commaList elements ++ "]"

def dict (dialect : Dialect) (pairs : List (String × String)) : String :=
  let pair := fun (key, value) =>
    match dialect with
    | cpp => "\x7b" ++ key ++ ", " ++ value ++ "\x7d"
    | typeScript _ => key ++ ": " ++ value
  "\x7b" ++ commaList (pairs.map pair) ++ "\x7d"

def conditional (test body orelse : String) : String := test ++ " ? " ++ body ++ " : " ++ orelse

/-- TypeScript has slices without a step. -/
def slice? (dialect : Dialect) (value : String) (bounds : Bounds) : Option String :=
  match dialect, bounds.step with
  | typeScript _, none =>
    let start := bounds.start.getD "undefined"
    match bounds.stop with
    | some stop => some (value ++ ".slice(" ++ start ++ ", " ++ stop ++ ")")
    | none => some (value ++ ".slice(" ++ start ++ ")")
  | _, _ => none

def capturePattern? (dialect : Dialect) (name : String) : Option String :=
  match dialect with
  | cpp => none
  | typeScript _ => some (dialect.styledName name)

/-! Comments. -/

def lineComment (text : String) : String := "// " ++ text

def comment : List String → List Step
  | [] => [.line ""]
  | [line] => [.line (lineComment line)]
  | lines => .line "/*" :: (lines.map Step.line ++ [.line "*/"])

def docLine (line : String) : String := if line.isEmpty then " *" else " * " ++ line

def docComment (lines : List String) : List Step :=
  .line "/**" :: (lines.map (fun line => Step.line (docLine line)) ++ [.line " */"])

/-! Headers and declarations. -/

def classHeader (dialect : Dialect) (name : String) (bases : List String) : String :=
  match dialect, bases with
  | _, [] => "class " ++ name
  | cpp, bases => "class " ++ name ++ " : " ++ commaList (bases.map ("public " ++ ·))
  | typeScript _, bases => "class " ++ name ++ " extends " ++ commaList bases

def classCloser : Dialect → String
  | cpp => "\x7d;"
  | typeScript _ => "\x7d"

/-- Parameters with their defaults; `spell` writes one without its default. -/
def parameterList (spell : SignatureParam → String) (params : List SignatureParam) : String :=
  commaList (params.map fun param =>
    match param.default with
    | some default => spell param ++ " = " ++ default
    | none => spell param)

def parameter (dialect : Dialect) (param : SignatureParam) : String :=
  let name := dialect.styledName param.name
  match dialect, param.hint with
  | cpp, hint => hint.getD "auto" ++ " " ++ name
  | typeScript true, some hint => name ++ ": " ++ hint
  | typeScript _, _ => name

def isStringMethod (name : String) : Bool := name == "__str__" || name == "__repr__"

/-- The header of a C++ function. A constructor is named after the class whose body it stands in,
and there are no asynchronous functions. -/
def cppFunctionHeader? (around : Surroundings) (signature : Signature) : Option String :=
  let params := "(" ++ parameterList cpp.parameter signature.params ++ ")"
  if signature.isAsync then none
  else if signature.isMethod && signature.name == "__init__" then
    around.className.map (· ++ params)
  else if signature.isMethod && isStringMethod signature.name then
    some ("operator std::string" ++ params ++ " const")
  else
    some (signature.returns.getD "void" ++ " " ++ cpp.styledName signature.name ++ params)

def typeScriptFunctionHeader (typed : Bool) (signature : Signature) : String :=
  let dialect := typeScript typed
  let name :=
    if !signature.isMethod then "function " ++ dialect.styledName signature.name
    else if signature.name = "__init__" then "constructor"
    else if isStringMethod signature.name then "toString"
    else (if signature.isGetter then "get " else "") ++ dialect.styledName signature.name
  let returns :=
    match typed, signature.returns with
    | true, some returns => " : " ++ returns
    | _, _ => ""
  (if signature.isAsync then "async " else "") ++ name ++ "(" ++
    parameterList dialect.parameter signature.params ++ ")" ++ returns

def functionHeader? (dialect : Dialect) (around : Surroundings) (signature : Signature) :
    Option String :=
  match dialect with
  | cpp => cppFunctionHeader? around signature
  | typeScript typed => some (typeScriptFunctionHeader typed signature)

def startsUpper (hint : String) : Bool :=
  match hint.toList with
  | [] => false
  | c :: _ => c.isUpper

/-- A C++ declaration. A call of the declared class itself becomes a constructor's arguments. -/
def cppDeclaration (declaration : Declaration) : String :=
  let start := declaration.hint ++ " " ++ declaration.target
  match declaration.value with
  | none => start ++ ";"
  | some value =>
    let plain := start ++ " = " ++ value ++ ";"
    if startsUpper declaration.hint && declaration.valueIsCall then
      match argumentsOf? declaration.hint.toList value.toList with
      | some arguments => start ++ "(" ++ String.ofList arguments ++ ");"
      | none => plain
    else plain

/-- A TypeScript declaration, which is a property right inside a class body. -/
def typeScriptDeclaration (typed : Bool) (around : Surroundings)
    (declaration : Declaration) : String :=
  (if around.className.isSome then "" else "let ") ++ declaration.target ++
    (if typed then ": " ++ declaration.hint else "") ++
    (match declaration.value with
      | some value => " = " ++ value
      | none => "") ++ ";"

def declaration (dialect : Dialect) (around : Surroundings) (declaration : Declaration) : String :=
  match dialect with
  | cpp => cppDeclaration declaration
  | typeScript typed => typeScriptDeclaration typed around declaration

/-! Loops and the remaining statements. -/

def counterType : Dialect → String
  | cpp => "int"
  | typeScript _ => "let"

/-- A counting loop; it needs a bound to stop at. -/
def countingLoop? (dialect : Dialect) (target : String) (bounds : Bounds) : Option String :=
  let filled := bounds.fillDefaults (fun n => dialect.constant (.int n) false) false
  filled.stop.map fun stop =>
    let update :=
      match filled.step with
      | some step => target ++ " += " ++ step
      | none => target ++ "++"
    "for ( " ++ dialect.counterType ++ " " ++ target ++ " = " ++ filled.start.getD "" ++ "; " ++
      target ++ " < " ++ stop ++ "; " ++ update ++ " )"

/-- A loop over the elements of something; only TypeScript can await them. -/
def eachLoop? (dialect : Dialect) (target items : String) (isAsync : Bool) : Option String :=
  match dialect with
  | cpp =>
    if isAsync then none else some ("for ( const auto& " ++ target ++ " : " ++ items ++ " )")
  | typeScript _ =>
    some ("for " ++ (if isAsync then "await " else "") ++ "( let " ++ target ++ " of " ++ items ++
      " )")

def forHeader? (dialect : Dialect) (target : String) (items : LoopItems) (isAsync : Bool) :
    Option String :=
  match items with
  | .range bounds _ => if isAsync then none else dialect.countingLoop? target bounds
  | .items text => dialect.eachLoop? target text isAsync

def importLine (imported : Alias) : String :=
  "import * as " ++ imported.asname.getD imported.name ++ " from '" ++ imported.name ++ "';"

def imports? (dialect : Dialect) (names : List Alias) : Option (List String) :=
  match dialect with
  | cpp => none
  | typeScript _ => some (names.map importLine)

def importedName (imported : Alias) : String :=
  match imported.asname with
  | some asname => imported.name ++ " as " ++ asname
  | none => imported.name

def importFrom? (dialect : Dialect) (module : Option String) (names : List Alias) :
    Option (List String) :=
  match dialect with
  | cpp => none
  | typeScript _ =>
    module.map fun module =>
      ["import \x7b " ++ commaList (names.map importedName) ++ " \x7d from '" ++ module ++ "';"]

def delete (dialect : Dialect) (targets : List String) : List String :=
  match dialect with
  | cpp => ["delete " ++ commaList targets ++ ";"]
  | typeScript _ => targets.map fun target => "delete " ++ target ++ ";"

def typeAlias (dialect : Dialect) (name value : String) : String :=
  match dialect with
  | cpp => "using " ++ name ++ " = " ++ value ++ ";"
  | typeScript _ => "type " ++ name ++ " = " ++ value ++ ";"

end Dialect

end Snippet
