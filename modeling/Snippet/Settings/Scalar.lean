import Snippet.Number.Digits
import Snippet.Number.Double
import Snippet.Settings.Reader
import Snippet.Settings.Value

namespace Snippet.Settings

open Number (digitValue spanDigits twoTo)
open Reader

/-! ### Quoted texts -/

def scalar? (digits : List Char) : Option Char :=
  let code := digits.foldl (fun n c => 16 * n + digitValue c) 0
  if code.isValidChar then some (Char.ofNat code) else none

def hexadecimal (count : Nat) : Reader Char := do
  let digits ← takeExactly count fun c => digitValue c < 16
  match scalar? digits with
  | some c => return c
  | none => failure

def escape : Reader Char := do
  match ← next with
  | 'b' => return '\x08'
  | 't' => return '\t'
  | 'n' => return '\n'
  | 'f' => return '\x0c'
  | 'r' => return '\r'
  | '"' => return '"'
  | '\\' => return '\\'
  | 'u' => hexadecimal 4
  | 'U' => hexadecimal 8
  | _ => failure

/-- Skips the end of a line after a backslash, and the blanks and line ends after it. -/
def continuation? (fuel : Nat) : Reader Bool :=
  (do
    blanks
    if !(← newline?) then failure
    skipEmpty fuel
    return true) <|> pure false
where
  skipEmpty : Nat → Reader Unit
    | 0 => failure
    | fuel + 1 => do
      blanks
      if ← newline? then skipEmpty fuel

/-- The text up to the quote that closes it. Only between double quotes is a backslash special. -/
def quotedLine (quote : Char) : Nat → Reader (List Char)
  | 0 => failure
  | fuel + 1 => do
    let c ← next
    if c = quote then return []
    else if c = '\\' && quote = '"' then
      let found ← escape
      return found :: (← quotedLine quote fuel)
    else if isPlain c then return c :: (← quotedLine quote fuel)
    else failure

/-- The text up to the three quotes that close it, before which it may end in two more of them. -/
def quotedBlock (quote : Char) : Nat → Reader (List Char)
  | 0 => failure
  | fuel + 1 => do
    if ← text? (List.replicate 5 quote) then return [quote, quote]
    else if ← text? (List.replicate 4 quote) then return [quote]
    else if ← text? (List.replicate 3 quote) then return []
    else if ← newline? then return '\n' :: (← quotedBlock quote fuel)
    else
      let c ← next
      if c = '\\' && quote = '"' then
        if ← continuation? fuel then quotedBlock quote fuel
        else
          let found ← escape
          return found :: (← quotedBlock quote fuel)
      else if isPlain c then return c :: (← quotedBlock quote fuel)
      else failure

/-- A text in single or double quotes on one line. -/
def quoted (fuel : Nat) : Reader String := do
  let quote ← next
  if quote = '"' || quote = '\'' then return String.ofList (← quotedLine quote fuel)
  else failure

/-- A text in quotes, of which three make it go over lines. A line end right after them is no part
of it. -/
def string (fuel : Nat) : Reader Value := do
  match ← get with
  | quote :: second :: third :: rest =>
    if (quote = '"' || quote = '\'') && second = quote && third = quote then
      set rest
      let _ ← newline?
      return .string (String.ofList (← quotedBlock quote fuel))
    else return .string (← quoted fuel)
  | _ => return .string (← quoted fuel)

/-! ### Dates and times -/

def twoDigits (least greatest : Nat) : Reader Nat := do
  let value := Number.decimalValue (← takeExactly 2 Char.isDigit)
  if least ≤ value && value ≤ greatest then return value else failure

def daysIn (year month : Nat) : Nat :=
  if month = 2 then
    if year % 4 = 0 && (year % 100 != 0 || year % 400 = 0) then 29 else 28
  else if [4, 6, 9, 11].contains month then 30
  else 31

def dateOnly : Reader Unit := do
  let year := Number.decimalValue (← takeExactly 4 Char.isDigit)
  text ['-']
  let month ← twoDigits 1 12
  text ['-']
  let _ ← twoDigits 1 (daysIn year month)

/-- A time of day, with a leap second and a fraction of a second. -/
def timeOnly : Reader Unit := do
  let _ ← twoDigits 0 23
  text [':']
  let _ ← twoDigits 0 59
  text [':']
  let _ ← twoDigits 0 60
  if ← text? ['.'] then
    if (← takeWhile Char.isDigit).isEmpty then failure

def timeOffset : Reader Unit := do
  match ← next with
  | 'Z' | 'z' => return
  | '+' | '-' =>
    let _ ← twoDigits 0 23
    text [':']
    discard (twoDigits 0 59)
  | _ => failure

/-- A time after the letter or blank that sets it off from its date. -/
def timeOfDate : Reader Unit := do
  let c ← next
  if c = 'T' || c = 't' || c = ' ' then
    timeOnly
    discard (optional timeOffset)
  else failure

def date : Reader Value := do
  (do
    dateOnly
    discard (optional timeOfDate)) <|> timeOnly
  return .date

/-! ### Numbers -/

/-- Digits of which one underscore may stand between two. -/
def digits (isDigit : Char → Bool) : Reader (List Char) := do
  match ← peek? with
  | some c =>
    if isDigit c then
      let (found, rest) := spanDigits isDigit (← get)
      set rest
      return found.filter (· != '_')
    else failure
  | none => failure

/-- An integer that 64 bits hold. -/
def integerOf (value : Int) : Reader Value :=
  if -(twoTo 63 : Int) ≤ value && value < twoTo 63 then return .integer value else failure

def valueIn (base : Nat) (digits : List Char) : Nat :=
  digits.foldl (fun n c => base * n + digitValue c) 0

/-- An integer with a base prefix, which has no sign. -/
def prefixedInteger : Reader Value := do
  text ['0']
  let base ←
    match ← next with
    | 'x' => pure 16
    | 'o' => pure 8
    | 'b' => pure 2
    | _ => failure
  integerOf (valueIn base (← digits fun c => digitValue c < base))

/-- The whole part of a number, without superfluous zeros. -/
def wholePart : Reader (List Char) := do
  if ← text? ['0'] then return ['0'] else digits Char.isDigit

def sign : Reader (List Char) := do
  if ← text? ['-'] then return ['-']
  else if ← text? ['+'] then return []
  else return []

def fraction : Reader (List Char) := do
  if ← text? ['.'] then return '.' :: (← digits Char.isDigit) else return []

def exponent : Reader (List Char) := do
  if (← peek?) = some 'e' || (← peek?) = some 'E' then
    let _ ← next
    let direction ← sign
    return 'e' :: direction ++ (← digits Char.isDigit)
  else return []

/-- A decimal integer, or a float that is not too great. -/
def decimal : Reader Value := do
  let direction ← sign
  let whole ← wholePart
  let places ← fraction
  let power ← exponent
  if places.isEmpty && power.isEmpty then
    let value : Int := Number.decimalValue whole
    integerOf (if direction.isEmpty then value else -value)
  else
    let (value, shift) := Number.decimalOf (whole ++ places ++ power)
    if (Number.Double.ofDecimal value shift).isFinite then return .float else failure

/-- Infinity, or what is no number. -/
def specialFloat : Reader Value := do
  let _ ← sign
  if ← text? "inf".toList then return .float
  else if ← text? "nan".toList then return .float
  else failure

def boolean : Reader Value := do
  if ← text? "true".toList then return .boolean true
  else if ← text? "false".toList then return .boolean false
  else failure

def scalar (fuel : Nat) : Reader Value :=
  string fuel <|> date <|> prefixedInteger <|> decimal <|> specialFloat <|> boolean

end Snippet.Settings
