import Snippet.Number.Digits
import Snippet.Text.Affix
import Snippet.Text.Identifier

namespace Snippet.Python

/-! A parser to run the programs of the library on sources. What is proved of them is said of every
parser, or of the tree that one gives. -/

open Number (spanDigits)

mutual

/-- A word of the source, or the start of a line of code outside all brackets. -/
inductive Lexeme where
  | lineStart (indent : Nat)
  | word (text : String)
  | integer (text : String)
  | float (text : String)
  /-- A string with its letters and quotes, and the tokens of each interpolated part. -/
  | string (text : String) (interpolations : List (List Token))
  | mark (text : String)

/-- A lexeme, the row it starts on, counted from zero, and the source from there on. -/
inductive Token where
  | mk (row : Nat) (rest : List Char) (lexeme : Lexeme)

end

def Token.row : Token → Nat
  | mk row _ _ => row

def Token.rest : Token → List Char
  | mk _ rest _ => rest

def Token.lexeme : Token → Lexeme
  | mk _ _ lexeme => lexeme

def Lexeme.text : Lexeme → String
  | lineStart _ => ""
  | word text | integer text | float text | string text _ | mark text => text

def Token.isLineStart (token : Token) : Bool := token.lexeme matches .lineStart _

/-- Operators and punctuation. A mark comes before every mark it starts with. -/
def marks : List String :=
  ["...", "**=", "//=", ">>=", "<<=", "!=", "<>", "->", ":=", "+=", "-=", "*=", "/=", "%=", "@=",
   "&=", "|=", "^=", "==", "<=", ">=", "**", "//", "<<", ">>", "(", ")", "[", "]", "\x7b", "\x7d",
   ",", ":", ".", ";", "@", "=", "+", "-", "*", "/", "%", "&", "|", "^", "~", "<", ">"]

/-- The longest mark at the front of a text, and what follows it. -/
def leadingMark? (text : List Char) : Option (String × List Char) :=
  marks.firstM fun mark => (Text.rest? mark.toList text).map (mark, ·)

def isSpace (c : Char) : Bool :=
  c == ' ' || ('\t' ≤ c && c ≤ '\r') || c == '\uFEFF' || c == '\u2060' || c == '\u200B'

/-! Each function below splits a text after the longest start of a kind. -/

def spanWord (text : List Char) : List Char × List Char := text.span Text.isIdentifierContinue

/-- Decimal digits, each of which one underscore may follow. -/
def spanDecimal : List Char → List Char × List Char
  | [] => ([], [])
  | [c] => if c.isDigit then ([c], []) else ([], [c])
  | c :: d :: rest =>
    if c.isDigit then
      if d = '_' then
        let (digits, rest) := spanDecimal rest
        (c :: d :: digits, rest)
      else
        let (digits, rest) := spanDecimal (d :: rest)
        (c :: digits, rest)
    else ([], c :: d :: rest)

def spanOne (isWanted : Char → Bool) : List Char → List Char × List Char
  | [] => ([], [])
  | c :: rest => if isWanted c then ([c], rest) else ([], c :: rest)

/-- An exponent with at least one digit, or nothing. -/
def spanExponent (text : List Char) : List Char × List Char :=
  let (letter, afterLetter) := spanOne (fun c => c == 'e' || c == 'E') text
  let (sign, afterSign) := spanOne (fun c => c == '+' || c == '-') afterLetter
  let (digits, rest) := spanDecimal afterSign
  if letter.isEmpty || digits.isEmpty then ([], text) else (letter ++ sign ++ digits, rest)

def spanLong : List Char → List Char × List Char := spanOne fun c => c == 'l' || c == 'L'

def spanImaginary : List Char → List Char × List Char := spanOne fun c => c == 'j' || c == 'J'

/-- The digits of the base that a letter after a zero names. -/
def digitsOfBase? : Char → Option (Char → Bool)
  | 'x' | 'X' => some fun c => Number.digitValue c < 16
  | 'o' | 'O' => some fun c => Number.digitValue c < 8
  | 'b' | 'B' => some fun c => Number.digitValue c < 2
  | _ => none

/-- An integer with a base prefix and at least one digit. -/
def prefixedInteger? : List Char → Option (Lexeme × List Char)
  | '0' :: letter :: text => do
    let isDigit ← digitsOfBase? letter
    let (digits, rest) := spanDigits isDigit text
    if digits.isEmpty then failure
    let (suffix, rest) := spanLong rest
    return (.integer (String.ofList ('0' :: letter :: digits ++ suffix)), rest)
  | _ => none

/-- The rest of a float whose text so far is given. -/
def floatFrom (start text : List Char) : Lexeme × List Char :=
  let (exponent, rest) := spanExponent text
  let (suffix, rest) := spanImaginary rest
  (.float (String.ofList (start ++ exponent ++ suffix)), rest)

/-- A decimal integer or a float. -/
def decimalNumber? (text : List Char) : Option (Lexeme × List Char) :=
  let (whole, rest) := spanDecimal text
  match rest with
  | '.' :: afterPoint =>
    let (fraction, rest) := spanDecimal afterPoint
    if whole.isEmpty && fraction.isEmpty then none
    else some (floatFrom (whole ++ '.' :: fraction) rest)
  | _ =>
    if whole.isEmpty then none
    else if (spanExponent rest).1.isEmpty then
      let (long, afterLong) := spanLong rest
      let (suffix, rest) := if long.isEmpty then spanImaginary rest else (long, afterLong)
      some (.integer (String.ofList (whole ++ suffix)), rest)
    else some (floatFrom whole rest)

def number? (text : List Char) : Option (Lexeme × List Char) :=
  (prefixedInteger? text).orElse fun _ => decimalNumber? text

/-- A word that starts a text, a number or a mark. -/
def plainLexeme? (text : List Char) : Option (Lexeme × List Char) :=
  match text with
  | [] => none
  | c :: _ =>
    if Text.isIdentifierStart c then
      let (word, rest) := spanWord text
      some (.word (String.ofList word), rest)
    else (number? text).orElse fun _ => (leadingMark? text).map fun (mark, rest) => (.mark mark, rest)

structure Opening where
  letters : List Char
  quote : Char
  triple : Bool

namespace Opening

def isStringLetter (c : Char) : Bool := "fFrRbBuU".toList.contains c

def isQuote (c : Char) : Bool := c == '\'' || c == '"' || c == '\x60'

/-- The opening of a string at the front of a text, and what follows it. Only quotation marks come
three at a time. -/
def ofText? (text : List Char) : Option (Opening × List Char) :=
  let (letters, rest) := text.span isStringLetter
  match rest with
  | [] => none
  | quote :: rest =>
    if isQuote quote then
      match if quote = '\x60' then none else Text.rest? [quote, quote] rest with
      | some rest => some (⟨letters, quote, true⟩, rest)
      | none => some (⟨letters, quote, false⟩, rest)
    else none

def delimiter (opening : Opening) : List Char :=
  if opening.triple then [opening.quote, opening.quote, opening.quote] else [opening.quote]

def isRaw (opening : Opening) : Bool := opening.letters.any fun c => c == 'r' || c == 'R'

def isFormatted (opening : Opening) : Bool := opening.letters.any fun c => c == 'f' || c == 'F'

/-- The characters that stay together at the front of a string's text, when they can stand there:
a backslash and what it takes with it, the name of a character, a doubled brace in a formatted
string or a single character. -/
def piece? (opening : Opening) (text : List Char) : Option (List Char × List Char) :=
  match text with
  | '\\' :: '\r' :: '\n' :: rest => some (['\\', '\r', '\n'], rest)
  | '\\' :: 'N' :: '\x7b' :: rest =>
    match rest.span (· != '\x7d') with
    | (name, '\x7d' :: rest) =>
      if opening.isRaw || name.isEmpty then some (['\\', 'N'], '\x7b' :: name ++ '\x7d' :: rest)
      else some ('\\' :: 'N' :: '\x7b' :: name ++ ['\x7d'], rest)
    | _ => some (['\\', 'N'], '\x7b' :: rest)
  | '\\' :: c :: rest =>
    if opening.isFormatted && (c == '\x7b' || c == '\x7d') then some (['\\'], c :: rest)
    else some (['\\', c], rest)
  | c :: rest =>
    if c == '\n' && !opening.triple then none
    else if opening.isFormatted && (c == '\x7b' || c == '\x7d') then
      (Text.rest? [c] rest).map fun rest => ([c, c], rest)
    else some ([c], rest)
  | [] => none

end Opening

end Snippet.Python
