import Snippet.Settings.Scalar
import Snippet.Settings.Table

/-!
# The TOML format

A settings text is a sequence of lines that give values to keys or open tables. Its form is that of
TOML 1.0, with a limit on how deep values and keys are nested.
-/

namespace Snippet.Settings

open Reader

/-- Keys have fewer parts than this, and arrays fewer levels. -/
def depthLimit : Nat := 80

def isBareKey (c : Char) : Bool := c.isAlphanum || c == '_' || c == '-'

def keyPart (fuel : Nat) : Reader String := do
  blanks
  let bare ← takeWhile isBareKey
  let part ← if bare.isEmpty then quoted fuel else pure (String.ofList bare)
  blanks
  return part

/-- A key as the way to its last part, and that part. -/
def key (fuel : Nat) : Reader (List String × String) := do
  let parts ← separated (keyPart fuel) ['.'] fuel
  match parts.getLast? with
  | some last => if parts.length < depthLimit then return (parts.dropLast, last) else failure
  | none => failure

def entry (value : Reader Value) (fuel : Nat) : Reader ((List String × String) × Value) := do
  let found ← key fuel
  text ['=']
  blanks
  return (found, ← value)

/-- The elements of an array after its bracket or a comma, through the closing bracket. -/
def elements (value : Reader Value) : Nat → Reader (List Value)
  | 0 => failure
  | fuel + 1 => do
    gap fuel
    if ← text? [']'] then return []
    let first ← value
    gap fuel
    if ← text? [','] then return first :: (← elements value fuel)
    else
      text [']']
      return [first]

/-- The entries of a table on one line, after its brace. -/
def inlineEntries (value : Reader Value) (fuel : Nat) :
    Reader (List ((List String × String) × Value)) := do
  blanks
  if ← text? ['\x7d'] then return []
  let closedEntry := do
    let found ← entry value fuel
    blanks
    return found
  let entries ← separated closedEntry [','] fuel
  text ['\x7d']
  return entries

/-- The table that entries make one after the other, unless two of them clash. -/
def tableOf? (entries : List ((List String × String) × Value)) : Option Table :=
  entries.foldlM (fun table ((path, last), value) => table.assign? path last value)
    (Table.empty .header)

/-- A value with fewer levels of arrays and tables than a bound. -/
def value (fuel : Nat) : Nat → Reader Value
  | 0 => failure
  | depth + 1 => do
    match ← peek? with
    | some '[' =>
      if depth = 0 then failure
      let _ ← next
      return .array (← elements (value fuel depth) fuel)
    | some '\x7b' =>
      if depth = 0 then failure
      let _ ← next
      match tableOf? (← inlineEntries (value fuel depth) fuel) with
      | some table => return table.toValue
      | none => failure
    | _ => scalar fuel

/-- The tables read so far, and the way to the one that the last header opened. -/
structure Progress where
  root : Table
  header : List String

def Progress.start : Progress := ⟨.empty .header, []⟩

def statement (fuel : Nat) (progress : Progress) : Reader Progress := do
  if ← text? ['[', '['] then
    let (path, last) ← key fuel
    text [']', ']']
    match progress.root.openElement? path last with
    | some root => return ⟨root, path ++ [last]⟩
    | none => failure
  else if ← text? ['['] then
    let (path, last) ← key fuel
    text [']']
    match progress.root.openTable? path last with
    | some root => return ⟨root, path ++ [last]⟩
    | none => failure
  else
    let ((path, last), found) ← entry (value fuel depthLimit) fuel
    match progress.root.modifyAt? false (Table.assign? path last found) progress.header with
    | some root => return ⟨root, progress.header⟩
    | none => failure

def lines : Nat → Progress → Reader Table
  | 0, _ => failure
  | fuel + 1, progress => do
    blanks
    match ← peek? with
    | none => return progress.root
    | some c =>
      if ['#', '\n', '\r'].contains c then
        lineEnd
        lines fuel progress
      else
        let progress ← statement fuel progress
        lineEnd
        lines fuel progress

/-- The table that a text gives, which may start with a byte order mark. -/
def Value.ofText? (text : List Char) : Option Value :=
  let text := (Text.rest? ['\uFEFF'] text).getD text
  ((lines (text.length + 2) .start).run text).map fun (root, _) => root.toValue

end Snippet.Settings
