import Snippet.Target.Curly
import Snippet.Target.Pseudocode

namespace Snippet

open Layout (Step)
open Render (Surroundings)
open Text (sentence)

namespace Target

/-! What each target makes of a node whose parts are rendered already. A target that has no form
for a node answers with nothing. -/

section Expressions

def operator : Target → Operator → String
  | curly dialect _ => dialect.operator
  | pseudocode _ => Pseudocode.operator

/-- Whether looser operands of an operator stand in parentheses. -/
def groupsOperands : Target → Operator → Bool
  | curly _ _, _ => true
  | pseudocode _, op => Pseudocode.groupsOperands op

def group : Target → String → String
  | curly _ _, text => "(" ++ text ++ ")"
  | pseudocode _, text => Pseudocode.group text

def constant : Target → Constant → Bool → String
  | curly dialect _, value, asType => dialect.constant value asType
  | pseudocode _, value, _ => Pseudocode.constant value

def nameText : Target → Surroundings → String → Bool → String
  | curly dialect _, around, name, _ => dialect.name around name
  | pseudocode _, around, name, asType => Pseudocode.name around name asType

def member : Target → String → String → String
  | curly dialect _, object, name => dialect.member object name
  | pseudocode subject, object, name => Pseudocode.member subject object name

def unary : Target → UnaryOp → String → String
  | curly dialect _, op, operand => dialect.operator (.unary op) ++ operand
  | pseudocode _, op, operand => Pseudocode.unary op operand

def infixed : Target → Operator → List String → String
  | curly dialect _, op, operands => String.intercalate (" " ++ dialect.operator op ++ " ") operands
  | pseudocode _, op, operands => Pseudocode.infixed op operands

def compare : Target → String → List (Operator × String) → String
  | curly dialect _, left, rest => dialect.compare left rest
  | pseudocode _, left, rest => Pseudocode.compare left rest

def call? : Target → String → List String → Option String
  | curly dialect _, func, args => some (dialect.call func args)
  | pseudocode _, func, args => Pseudocode.call? func args

def sequence? : Target → SequenceKind → List String → Option String
  | curly dialect _, kind, elements => some (dialect.sequence kind elements)
  | pseudocode _, _, _ => none

def dict? : Target → List (String × String) → Option String
  | curly dialect _, pairs => some (dialect.dict pairs)
  | pseudocode _, _ => none

def conditional? : Target → String → String → String → Option String
  | curly _ _, test, body, orelse => some (Dialect.conditional test body orelse)
  | pseudocode _, _, _, _ => none

def subscript (value index : String) : String := value ++ "[" ++ index ++ "]"

def slice? : Target → String → Bounds → Option String
  | curly dialect _, value, bounds => dialect.slice? value bounds
  | pseudocode _, _, _ => none

def starred? : Target → String → Option String
  | curly _ _, value => some ("..." ++ value)
  | pseudocode _, _ => none

/-- A pattern that binds the subject of a `match` to a name. -/
def capturePattern? : Target → String → Option String
  | curly dialect _, name => dialect.capturePattern? name
  | pseudocode _, _ => none

end Expressions

section Comments

def lineComment : Target → String → String
  | curly _ _, text => Dialect.lineComment text
  | pseudocode _, text => text

/-- A constant that stands as a statement. -/
def comment : Target → List String → List Step
  | curly _ _, lines => Dialect.comment lines
  | pseudocode _, lines => Pseudocode.comment lines

def docComment : Target → List String → List Step
  | curly _ _, lines => Dialect.docComment lines
  | pseudocode _, lines => Pseudocode.comment lines

end Comments

section Statements

def expressionStatement : Target → String → List Step
  | curly _ _, code => [.line (code ++ ";")]
  | pseudocode _, code => [.line (Pseudocode.expressionStatement code)]

def beginClass? : Target → String → List String → Option (List Step)
  | curly dialect style, name, bases => some (style.opening (dialect.classHeader name bases))
  | pseudocode _, _, _ => none

def endClass? : Target → Option (List Step)
  | curly dialect style => some (style.closing dialect.classCloser)
  | pseudocode _ => none

/-- Begins a function, whose parameters may become declarations. -/
def beginFunction? (target : Target) (around : Surroundings) (signature : Signature) :
    Option (Surroundings × List Step) :=
  match target with
  | curly dialect style =>
    (dialect.functionHeader? around signature).map fun header => (around, style.opening header)
  | pseudocode subject => some (Pseudocode.beginFunction subject around signature)

def endFunction : Target → List Step
  | curly _ style => style.ending
  | pseudocode _ => []

def declare (target : Target) (around : Surroundings) (declaration : Declaration) : List Step :=
  match target with
  | curly dialect _ => [.line (dialect.declaration around declaration)]
  | pseudocode _ => [.line (Pseudocode.declaration declaration)]

def assign : Target → List String → String → List Step
  | curly _ _, targets, value => [.line (String.intercalate " = " targets ++ " = " ++ value ++ ";")]
  | pseudocode _, targets, value =>
    targets.map fun target => .line (Pseudocode.assignment value target)

def assignOp : Target → String → Operator → String → List Step
  | curly dialect _, target, op, value =>
    [.line (target ++ " " ++ dialect.operator op ++ "= " ++ value ++ ";")]
  | pseudocode _, target, op, value => [.line (Pseudocode.assignOp target op value)]

def beginIf : Target → String → List Step
  | curly _ style, test => style.opening ("if ( " ++ test ++ " )")
  | pseudocode _, test => [.line ("If " ++ Pseudocode.math test)]

def beginElif : Target → String → List Step
  | curly _ style, test => style.middle ("else if ( " ++ test ++ " )")
  | pseudocode _, test => [.line ("Otherwise, if " ++ Pseudocode.math test)]

def beginElse : Target → List Step
  | curly _ style => style.middle "else"
  | pseudocode _ => [.line "Otherwise"]

/-- Ends a chain of branches, a loop or a `match`. -/
def endBlock : Target → List Step
  | curly _ style => style.ending
  | pseudocode _ => []

def beginFor? : Target → String → LoopItems → Bool → Option (List Step)
  | curly dialect style, target, items, isAsync =>
    (dialect.forHeader? target items isAsync).map style.opening
  | pseudocode _, target, items, _ => some [.line (Pseudocode.forHeader target items)]

def beginWhile : Target → String → List Step
  | curly _ style, test => style.opening ("while ( " ++ test ++ " )")
  | pseudocode _, test => [.line ("While " ++ Pseudocode.math test)]

def keywordStatement : Target → String → List Step
  | curly _ _, keyword => [.line (keyword ++ ";")]
  | pseudocode _, keyword => [.line (sentence keyword true)]

def returning : Target → Option String → List Step
  | curly _ _, some value => [.line ("return " ++ value ++ ";")]
  | curly _ _, none => [.line "return;"]
  | pseudocode _, some value => [.line ("Return " ++ Pseudocode.math value)]
  | pseudocode _, none => [.line "Return"]

def beginSwitch? : Target → String → Option (List Step)
  | curly _ style, subject => some (style.opening ("switch ( " ++ subject ++ " )"))
  | pseudocode _, _ => none

/-- Begins an arm of a `match`; the wildcard has no pattern. -/
def beginCase? : Target → Option String → Option (List Step)
  | curly _ _, some pattern => some [.line ("case " ++ pattern ++ ":")]
  | curly _ _, none => some [.line "default:"]
  | pseudocode _, _ => none

def endCase? : Target → Option (List Step)
  | curly _ _ => some [.line "break;"]
  | pseudocode _ => none

def imports? : Target → List Alias → Option (List Step)
  | curly dialect _, names => (dialect.imports? names).map (·.map Step.line)
  | pseudocode _, _ => some []

def importFrom? : Target → Option String → List Alias → Option (List Step)
  | curly dialect _, module, names => (dialect.importFrom? module names).map (·.map Step.line)
  | pseudocode _, _, _ => none

def delete? : Target → List String → Option (List Step)
  | curly dialect _, targets => some ((dialect.delete targets).map Step.line)
  | pseudocode _, _ => none

def typeAlias? : Target → String → String → Option (List Step)
  | curly dialect _, name, value => some [.line (dialect.typeAlias name value)]
  | pseudocode _, _, _ => none

end Statements

end Target

end Snippet
