import Snippet.Layout.Line
import Snippet.Settings.Document
import Snippet.Target.Basic

namespace Snippet

open Layout (BraceStyle IndentUnit)

/-- Which targets a snippet is rendered in, and how. -/
structure Settings where
  targets : List String
  indent : IndentUnit
  cppStyle : BraceStyle
  typeScriptStyle : BraceStyle
  typed : Bool
  /-- What pseudocode tells of; the empty text when it tells of nothing. -/
  subject : String
deriving DecidableEq, Repr

inductive SettingsError where
  | malformed
  | unknownTarget (name : String)
  | missingFile (path : String)
deriving DecidableEq, Repr

namespace SettingsError

def message : SettingsError → String
  | malformed => "invalid configuration"
  | unknownTarget name => "unknown target: " ++ name
  | missingFile path => "failed to read " ++ path ++ ": No such file or directory (os error 2)"

end SettingsError

namespace Settings

def standard : Settings where
  targets := Target.standard.map Target.name
  indent := .standard
  cppStyle := .allman
  typeScriptStyle := .kAndR
  typed := true
  subject := Target.standardSubject

/-! Values of the kinds that settings have. -/

namespace Value

def text? : Value → Option String
  | string value => some value
  | _ => none

def texts? : Value → Option (List String)
  | array elements => elements.mapM text?
  | _ => none

def flag? : Value → Option Bool
  | boolean value => some value
  | _ => none

def size? : Value → Option Nat
  | integer value => if 0 ≤ value then some value.toNat else none
  | _ => none

def character? : Value → Option Char
  | string value =>
    match value.toList with
    | [c] => some c
    | _ => none
  | _ => none

def isEmpty : Value → Bool
  | array elements => elements.isEmpty
  | table entries => entries.isEmpty
  | _ => false

/-- A style by its name, which may also be the only key of a table, with nothing under it. -/
def style? : Value → Option BraceStyle
  | string name => BraceStyle.ofName? name
  | table [(name, value)] => if value.isEmpty then BraceStyle.ofName? name else none
  | _ => none

/-- The setting at a place of a section. A section is a table of settings by their names, an array
of them in order or a date, which holds none of them. What it leaves out has a default. -/
def setting (place : Nat) (name : String) (read? : Value → Option α) (default : α) :
    Value → Option α
  | table entries => (entries.lookup name).elim (some default) read?
  | array elements => elements[place]?.elim (some default) read?
  | date => some default
  | _ => none

/-- A section of the settings; one that is left out is an empty table. -/
def section? (place : Nat) (name : String) (root : Value) : Option Value :=
  root.setting place name some (table [])

end Value

/-- The settings that a table gives. Keys that are no settings have no effect. -/
def ofValue? (root : Value) : Option Settings := do
  let indent ← root.section? 1 "indent"
  let cpp ← root.section? 2 "cpp"
  let typeScript ← root.section? 3 "typescript"
  let pseudocode ← root.section? 4 "pseudocode"
  return {
    targets := ← root.setting 0 "targets" Value.texts? standard.targets
    indent := {
      width := ← indent.setting 0 "width" Value.size? standard.indent.width
      character := ← indent.setting 1 "character" Value.character? standard.indent.character }
    cppStyle := ← cpp.setting 0 "brace_style" Value.style? standard.cppStyle
    typeScriptStyle := ← typeScript.setting 0 "brace_style" Value.style? standard.typeScriptStyle
    typed := ← typeScript.setting 1 "type_annotations" Value.flag? standard.typed
    subject := ← pseudocode.setting 0 "subject" Value.text? standard.subject }

def ofText (text : String) : Except SettingsError Settings :=
  match (Value.ofText? text.toList).bind ofValue? with
  | some settings => .ok settings
  | none => .error .malformed

/-- A target of a name as the settings set it up. -/
def target (settings : Settings) (name : String) : Except SettingsError Target :=
  match Target.ofName? name with
  | some (.curly .cpp _) => .ok (.curly .cpp settings.cppStyle)
  | some (.curly (.typeScript _) _) =>
    .ok (.curly (.typeScript settings.typed) settings.typeScriptStyle)
  | some (.pseudocode _) =>
    .ok (.pseudocode (if settings.subject = "" then none else some settings.subject))
  | none => .error (.unknownTarget name)

/-- The targets in order, or the first name that is none. -/
def chosenTargets (settings : Settings) : Except SettingsError (List Target) :=
  settings.targets.mapM settings.target

end Settings

end Snippet
