import Snippet.Number.Numeral
import Snippet.Render.Scope
import Snippet.Target.Basic
import Snippet.Text.Affix
import Snippet.Text.Naming
import Snippet.Text.Quoted
import Snippet.Tree.Basic

namespace Snippet.Pseudocode

open Layout (Step)
open Render (Surroundings)
open Text (trimUnderscores lowerCamel sentence pseudocodeString splitAtLastUnderscore)

/-! Statements are indented sentences with inline mathematics between dollar signs. The members of
the subject, when there is one, read as prose. -/

def operator : Operator → String
  | .compare .equal | .compare .is => "="
  | .compare .notEqual | .compare .isNot => "\\neq"
  | .compare .less => "<"
  | .compare .lessEqual => "\\leq"
  | .compare .greater => ">"
  | .compare .greaterEqual => "\\geq"
  | .compare .isIn => "\\in"
  | .compare .notIn => "\\notin"
  | .binary .add => "+"
  | .binary .sub => "-"
  | .binary .mult => "\\cdot"
  | .binary .matMult => "\\times"
  | .binary .div => "\\frac"
  | .binary .mod => "%"
  | .binary .leftShift => "<<"
  | .binary .rightShift => ">>"
  | .binary .bitOr => "|"
  | .binary .bitXor | .binary .pow => "^"
  | .binary .bitAnd => "&"
  | .binary .floorDiv => "//"
  | .unary .invert => "~"
  | .unary .not => "\\neg"
  | .unary .plus => "+"
  | .unary .minus => "-"
  | .bool .and => "\\land"
  | .bool .or => "\\lor"

/-- The parts of a fraction need no parentheses. -/
def groupsOperands (op : Operator) : Bool := op != .binary .div

def group (text : String) : String := "\\left(" ++ text ++ "\\right)"

def math (text : String) : String := "$" ++ text ++ "$"

def isSentence (text : String) : Bool := text.toList.contains ' '

def constant : Constant → String
  | .nothing => "nil"
  | .bool value => if value then "true" else "false"
  | .int value => toString value.toInt
  | .float value => value.text .code
  | .str value => pseudocodeString value

/-- The well-known types, where a name stands for a type. -/
def typeName? : String → Option String
  | "float" => some "\\mathbb\x7bR\x7d"
  | "int" => some "\\mathbb\x7bZ\x7d"
  | "Vector2D" => some "\\mathbb\x7bR\x7d^2"
  | _ => none

/-- A name as a symbol; what follows its last underscore is a subscript. -/
def symbol (name : String) : String :=
  if ["min", "max", "alpha", "beta", "theta"].contains name then "\\" ++ name
  else
    let trimmed := trimUnderscores name
    match splitAtLastUnderscore trimmed with
    | some (head, tail) => lowerCamel head ++ "_\x7b" ++ tail ++ "\x7d"
    | none => trimmed

def isVectorType (type : String) : Bool :=
  (Text.rest? "\\mathbb\x7bR\x7d^".toList type.toList).isSome

/-- A name where it stands; one that is declared as a vector has an arrow. -/
def name (around : Surroundings) (name : String) (asType : Bool) : String :=
  let spelled := (if asType then typeName? name else none).getD (symbol name)
  if isVectorType (around.scopes.lookup name) then "\\vec\x7b" ++ spelled ++ "\x7d" else spelled

def member (subject : Option String) (object name : String) : String :=
  if subject = some object then
    if name = "closed" then object ++ " closed" else sentence name true
  else if object = "math" then "\\" ++ name
  else object ++ "." ++ name

def unary (op : UnaryOp) (operand : String) : String :=
  match op with
  | .not => "\\neg " ++ operand
  | op => operator (.unary op) ++ operand

def infixed (op : Operator) (operands : List String) : String :=
  match op, operands with
  | .binary .div, [numerator, denominator] =>
    "\\frac\x7b" ++ numerator ++ "\x7d\x7b" ++ denominator ++ "\x7d"
  | op, operands => String.intercalate (" " ++ operator op ++ " ") operands

def compare (left : String) (rest : List (Operator × String)) : String :=
  left ++ String.join (rest.map fun (op, right) => " " ++ operator op ++ " " ++ right)

/-- An interval for a call of `range`, which takes one to three arguments. -/
def interval? : List String → Option String
  | [stop] => some ("[0, " ++ stop ++ ")")
  | [start, stop] => some ("[" ++ start ++ ", " ++ stop ++ ")")
  | [start, stop, step] =>
    some ("[" ++ start ++ ", " ++ stop ++ ") \\text\x7b by \x7d " ++ step)
  | _ => none

/-- A call of a sentence takes its arguments as mathematics after it. -/
def plainCall (func : String) (args : List String) : String :=
  if isSentence func then
    if args.isEmpty then func else func ++ " " ++ math (commaList args)
  else func ++ group (commaList args)

def call? (func : String) (args : List String) : Option String :=
  match func with
  | "int" =>
    match args with
    | [value] => some value
    | _ => some (plainCall func args)
  | "round" => some ("\\lfloor " ++ commaList args ++ " \\rceil")
  | "floor" => some ("\\lfloor " ++ commaList args ++ " \\rfloor")
  | "ceil" => some ("\\lceil " ++ commaList args ++ " \\rceil")
  | "range" => interval? args
  | "Vector2D" => some (group (commaList args))
  | _ => some (plainCall func args)

/-! Statements. -/

def comment : List String → List Step
  | [] => [.line ""]
  | lines => lines.map Step.line

/-- A sentence stands as it is, anything else is mathematics. -/
def expressionStatement (code : String) : String :=
  if isSentence code || code.toList.contains '$' then code else math code

/-- A parameter as an element of its type, with its default. -/
def input (around : Surroundings) (param : SignatureParam) : String :=
  math (name around param.name false ++
    (match param.hint with
      | some hint => " \\in " ++ hint
      | none => "") ++
    (match param.default with
      | some default => " = " ++ default
      | none => ""))

/-- Declares the parameters one after another, and writes each in the sight of those before it. -/
def inputs (around : Surroundings) : List SignatureParam → Surroundings × List Step
  | [] => (around, [])
  | param :: rest =>
    let declared := around.declare param.name (param.hint.getD "")
    let (last, steps) := inputs declared rest
    (last, .line (input declared param) :: steps)

def listedParams (subject : Option String) : List SignatureParam → List SignatureParam
  | [] => []
  | first :: rest => if subject = some first.name then rest else first :: rest

/-- A function's name as a sentence, then its parameters other than a leading subject. -/
def beginFunction (subject : Option String) (around : Surroundings) (signature : Signature) :
    Surroundings × List Step :=
  let title := Step.line (sentence (trimUnderscores signature.name) true)
  let params := listedParams subject signature.params
  if params.isEmpty then (around, [title])
  else
    let (declared, steps) := inputs around params
    (declared,
      [title, .indent, .line "Inputs:", .indent] ++ steps ++ [.dedent, .line "", .dedent])

def declaration (declaration : Declaration) : String :=
  match declaration.value with
  | some value => math (declaration.target ++ " \\coloneq " ++ value)
  | none => math (declaration.target ++ " \\in " ++ declaration.hint)

def assignment (value target : String) : String :=
  if isSentence target then
    match value with
    | "true" => "Set " ++ target
    | "false" => "Unset " ++ target
    | value => "Set " ++ target ++ " to " ++ value
  else math (target ++ " \\coloneq " ++ value)

def assignOp (target : String) (op : Operator) (value : String) : String :=
  let operand := if isSentence value && groupsOperands op then group value else value
  math (target ++ " \\coloneq " ++ infixed op [target, operand])

def forHeader (target : String) (items : LoopItems) : String :=
  let text :=
    match items with
    | .range _ call => call
    | .items text => text
  "For each " ++ math target ++ " in " ++ math text

end Snippet.Pseudocode
