import Snippet.Number.Digits
import Snippet.Number.Double
import Snippet.Source.Node
import Snippet.Text.Affix
import Snippet.Tree.Basic

namespace Snippet.Source

open Number (Double digitValue decimalOf twoTo)

def withoutUnderscores (text : String) : List Char := text.toList.filter (· != '_')

def isImaginary (text : List Char) : Bool :=
  text.getLast?.any fun c => c == 'j' || c == 'J'

/-! ### Integers -/

/-- A value with more digits after it, as long as it does not pass a bound. -/
def readDigits (base bound : Nat) (past : IntegerFault) : Nat → List Char → Except IntegerFault Nat
  | value, [] => .ok value
  | value, c :: rest =>
    if digitValue c < base then
      let next := value * base + digitValue c
      if next ≤ bound then readDigits base bound past next rest else .error past
    else .error .strayLetter

/-- A whole number of 64 bits in a base. A sign may come before its digits. -/
def readWhole (base : Nat) : List Char → Except IntegerFault Int64
  | [] => .error .empty
  | ['+'] | ['-'] => .error .strayLetter
  | '+' :: digits => (readDigits base (twoTo 63 - 1) .tooLarge 0 digits).map .ofNat
  | '-' :: digits => (readDigits base (twoTo 63) .tooSmall 0 digits).map fun value => -.ofNat value
  | digits => (readDigits base (twoTo 63 - 1) .tooLarge 0 digits).map .ofNat

/-- The value of an integer without underscores, whose base the letter after a first zero names. -/
def integerValue : List Char → Except IntegerFault Int64
  | '0' :: 'x' :: digits | '0' :: 'X' :: digits => readWhole 16 digits
  | '0' :: 'o' :: digits | '0' :: 'O' :: digits => readWhole 8 digits
  | '0' :: 'b' :: digits | '0' :: 'B' :: digits => readWhole 2 digits
  | digits => readWhole 10 digits

def readInteger (line : UInt64) (text : String) : Except ReadError Expr :=
  let digits := withoutUnderscores text
  if isImaginary digits then .error (.refused .complexLiteral line "integer")
  else
    match integerValue digits with
    | .ok value => .ok (.constant (.int value))
    | .error fault => .error (.badInteger (String.ofList digits) fault)

/-! ### Floats -/

/-- Whether a text is a decimal numeral: digits around a point or without one, and digits in its
exponent if it has one. -/
def isNumeral (text : List Char) : Bool :=
  let (mantissa, exponent) := text.span fun c => c != 'e' && c != 'E'
  let (whole, fraction) := mantissa.span (· != '.')
  let digits := whole ++ fraction.drop 1
  !digits.isEmpty && digits.all Char.isDigit &&
    match exponent with
    | [] => true
    | _ :: '+' :: power | _ :: '-' :: power | _ :: power => !power.isEmpty && power.all Char.isDigit

/-- The number that a text without a sign stands for. -/
def unsignedFloat? (text : List Char) : Option Double :=
  if isNumeral text then
    let (value, exponent) := decimalOf text
    some (.ofDecimal value exponent)
  else
    let name := String.ofList (text.map Char.toLower)
    if name = "inf" || name = "infinity" then some .infinity
    else if name = "nan" then some .notANumber
    else none

def floatValue (text : List Char) : Except FloatFault Double :=
  match text with
  | [] => .error .empty
  | '+' :: rest => orInvalid (unsignedFloat? rest)
  | '-' :: rest => orInvalid ((unsignedFloat? rest).map Double.neg)
  | _ => orInvalid (unsignedFloat? text)
where
  orInvalid : Option Double → Except FloatFault Double
    | some value => .ok value
    | none => .error .invalid

def readFloat (line : UInt64) (text : String) : Except ReadError Expr :=
  let digits := withoutUnderscores text
  if isImaginary digits then .error (.refused .complexLiteral line "float")
  else
    match floatValue digits with
    | .ok value => .ok (.constant (.float value))
    | .error fault => .error (.badFloat (String.ofList digits) fault)

/-! ### Strings -/

/-- What a backslash and a character stand for; nothing when both are kept. -/
def escaped? : Char → Option (List Char)
  | 'n' => some ['\n']
  | 't' => some ['\t']
  | 'r' => some ['\r']
  | '0' => some ['\x00']
  | '\\' => some ['\\']
  | '\'' => some ['\'']
  | '"' => some ['"']
  | '\n' => some []
  | _ => none

def unescape : List Char → List Char
  | [] => []
  | [c] => [c]
  | c :: d :: rest =>
    if c = '\\' then ((escaped? d).getD [c, d]) ++ unescape rest else c :: unescape (d :: rest)

/-- Why the written form of a string has no text. -/
inductive StringFault where
  | bytes
  | malformed
  | unterminated
deriving DecidableEq, Repr

/-- A text without the same quotes at both ends. -/
def unquote? (quote text : List Char) : Option (List Char) := do
  let afterQuote ← Text.rest? quote text
  let reversed ← Text.rest? quote.reverse afterQuote.reverse
  return reversed.reverse

/-- The quotes that open a text: three of a kind or the first character. -/
def openingQuote (text : List Char) : List Char :=
  match text with
  | '"' :: '"' :: '"' :: _ | '\'' :: '\'' :: '\'' :: _ => text.take 3
  | _ => text.take 1

/-- The text that a string with its letters and quotes stands for. -/
def stringValue (text : List Char) : Except StringFault (List Char) :=
  let (letters, quoted) := text.span fun c => c != '"' && c != '\''
  if quoted.isEmpty then .error .malformed
  else if letters.any (fun c => c == 'b' || c == 'B') then .error .bytes
  else
    match unquote? (openingQuote quoted) quoted with
    | none => .error .unterminated
    | some inner =>
      if letters.any (fun c => c == 'r' || c == 'R') then .ok inner else .ok (unescape inner)

def Node.isInterpolation (node : Node) : Bool := node.kind == "interpolation"

/-- The text of a string, which has no interpolated part. -/
def Node.readString (node : Node) : Except ReadError String :=
  if node.parts.any (·.val.isInterpolation) then node.refuse .interpolation
  else
    match stringValue node.text.toList with
    | .ok value => .ok (String.ofList value)
    | .error .bytes => node.refuse .bytesLiteral
    | .error .malformed => .error (.malformedString node.text)
    | .error .unterminated => .error (.unterminatedString node.text)

end Snippet.Source
