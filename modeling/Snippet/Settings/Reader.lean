import Snippet.Text.Affix

namespace Snippet.Settings

/-- A reader of the characters at the front of a settings text. -/
abbrev Reader := StateT (List Char) Option

/-- The characters of comments and quoted texts on one line. -/
def isPlain (c : Char) : Bool := c == '\t' || (' ' ≤ c && c != '\x7f')

namespace Reader

def peek? : Reader (Option Char) := do return (← get).head?

def text? (expected : List Char) : Reader Bool := do
  match Text.rest? expected (← get) with
  | some rest =>
    set rest
    return true
  | none => return false

def text (expected : List Char) : Reader Unit := do
  if !(← text? expected) then failure

def next : Reader Char := do
  match ← get with
  | c :: rest =>
    set rest
    return c
  | [] => failure

def takeWhile (isWanted : Char → Bool) : Reader (List Char) := do
  let (found, rest) := (← get).span isWanted
  set rest
  return found

def takeExactly (count : Nat) (isWanted : Char → Bool) : Reader (List Char) := do
  let found := (← get).take count
  if found.length = count && found.all isWanted then
    modify (·.drop count)
    return found
  else failure

def blanks : Reader Unit := discard (takeWhile fun c => c == ' ' || c == '\t')

def newline? : Reader Bool := do
  if ← text? ['\n'] then return true
  else text? ['\r', '\n']

def comment? : Reader Bool := do
  let found ← text? ['#']
  if found then discard (takeWhile isPlain)
  return found

/-- The end of a line, after blanks and a comment. -/
def lineEnd : Reader Unit := do
  blanks
  let _ ← comment?
  if !(← newline?) && !(← get).isEmpty then failure

def gap : Nat → Reader Unit
  | 0 => failure
  | fuel + 1 => do
    blanks
    if ← comment? then gap fuel
    else if ← newline? then gap fuel

/-- Items after each of which the separator may come, with one more item after it. -/
def separated (item : Reader α) (separator : List Char) : Nat → Reader (List α)
  | 0 => failure
  | fuel + 1 => do
    let first ← item
    if ← text? separator then return first :: (← separated item separator fuel)
    else return [first]

end Reader

end Snippet.Settings
