import Snippet.Layout.Braces

namespace Snippet

open Layout (BraceStyle)

/-- The languages with braces. TypeScript can leave out the types. -/
inductive Dialect where
  | cpp
  | typeScript (typed : Bool)
deriving DecidableEq, Repr

/-- A language that snippets are rendered in. Pseudocode can tell of a subject, whose members read
as prose. -/
inductive Target where
  | curly (dialect : Dialect) (style : BraceStyle)
  | pseudocode (subject : Option String)
deriving DecidableEq, Repr

namespace Target

def cpp : Target := .curly .cpp .allman

def typeScript : Target := .curly (.typeScript true) .kAndR

def standardSubject : String := "shape"

def narrated : Target := .pseudocode (some standardSubject)

/-- The targets that are rendered when none is asked for. -/
def standard : List Target := [cpp, typeScript, narrated]

def name : Target → String
  | curly .cpp _ => "cpp"
  | curly (.typeScript _) _ => "ts"
  | pseudocode _ => "pseudo"

def language : Target → String
  | curly .cpp _ => "C++"
  | curly (.typeScript _) _ => "TypeScript"
  | pseudocode _ => "Pseudo-Code"

/-- The target of a name as it is set up by default. -/
def ofName? (name : String) : Option Target := standard.find? (·.name == name)

end Target

/-- The name of the language that snippets are written in, where it stands among targets. -/
def sourceName : String := "py"

/-- The language of a target, or of the snippets themselves. -/
def languageName? (name : String) : Option String :=
  if name = sourceName then some "Python" else (Target.ofName? name).map Target.language

/-! What the walk over a tree hands to a target: rendered texts, put together by their roles. -/

inductive SequenceKind where
  | tuple
  | list
  | set
deriving DecidableEq, Repr

/-- The bounds of a counting loop or of a slice. -/
structure Bounds where
  start : Option String
  stop : Option String
  step : Option String
deriving DecidableEq, Repr

def Bounds.ofArguments : List String → Option Bounds
  | [stop] => some ⟨none, some stop, none⟩
  | [start, stop] => some ⟨some start, some stop, none⟩
  | [start, stop, step] => some ⟨some start, some stop, some step⟩
  | _ => none

/-- Fills in the start zero and, when asked for, the step one. -/
def Bounds.fillDefaults (literal : Int64 → String) (fillStep : Bool) (bounds : Bounds) : Bounds :=
  { bounds with
    start := some (bounds.start.getD (literal 0))
    step := if fillStep then some (bounds.step.getD (literal 1)) else bounds.step }

/-- What a loop goes over: the numbers of a range, which is also a call, or any items. -/
inductive LoopItems where
  | range (bounds : Bounds) (call : String)
  | items (text : String)
deriving DecidableEq, Repr

structure SignatureParam where
  name : String
  hint : Option String
  default : Option String
deriving DecidableEq, Repr

/-- The header of a function or method, without the receiver of a method. -/
structure Signature where
  name : String
  params : List SignatureParam
  returns : Option String
  isAsync : Bool
  isMethod : Bool
  isGetter : Bool
deriving DecidableEq, Repr

/-- A declaration of a target with a type, perhaps with a value. -/
structure Declaration where
  target : String
  hint : String
  value : Option String
  valueIsCall : Bool
deriving DecidableEq, Repr

def commaList (items : List String) : String := String.intercalate ", " items

end Snippet
