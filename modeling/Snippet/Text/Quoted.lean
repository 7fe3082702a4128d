import Snippet.Text.Printable

namespace Snippet.Text

/-- The hexadecimal digits of a number in lower case, at least `width` of them. -/
def lowerHex (width n : Nat) : List Char :=
  let digits := Nat.toDigits 16 n
  List.replicate (width - digits.length) '0' ++ digits

def enclose (quote : Char) (escape : Char → List Char) (text : List Char) : List Char :=
  quote :: (text.flatMap escape ++ [quote])

/-! String literals of the brace languages are JSON strings: short escapes where JSON has them,
four hexadecimal digits for the other controls, everything from the space on as it is. -/

def jsonEscape (c : Char) : List Char :=
  match c with
  | '"' => ['\\', '"']
  | '\\' => ['\\', '\\']
  | '\n' => ['\\', 'n']
  | '\r' => ['\\', 'r']
  | '\t' => ['\\', 't']
  | '\x08' => ['\\', 'b']
  | '\x0C' => ['\\', 'f']
  | c => if c.toNat < 0x20 then '\\' :: 'u' :: lowerHex 4 c.toNat else [c]

def jsonString (text : String) : String := String.ofList (enclose '"' jsonEscape text.toList)

/-! Pseudocode quotes a string with single quotes, unless it holds a single quote and no double
quote. -/

def pseudocodeQuote (text : List Char) : Char :=
  if text.contains '\'' && !text.contains '"' then '"' else '\''

def pseudocodeEscape (quote c : Char) : List Char :=
  match c with
  | '\\' => ['\\', '\\']
  | '\n' => ['\\', 'n']
  | '\r' => ['\\', 'r']
  | '\t' => ['\\', 't']
  | c =>
    if c = quote then ['\\', c]
    else if c.toNat < 0x20 || c.toNat = 0x7F then '\\' :: 'x' :: lowerHex 2 c.toNat
    else [c]

def pseudocodeString (text : String) : String :=
  let quote := pseudocodeQuote text.toList
  String.ofList (enclose quote (pseudocodeEscape quote) text.toList)

/-! A dump quotes a string with double quotes and shows by code point what does not print. -/

def dumpEscape (c : Char) : List Char :=
  match c with
  | '"' => ['\\', '"']
  | '\\' => ['\\', '\\']
  | '\n' => ['\\', 'n']
  | '\r' => ['\\', 'r']
  | '\t' => ['\\', 't']
  | '\x00' => ['\\', '0']
  | c =>
    if isPrintable c then [c]
    else '\\' :: 'u' :: '\x7b' :: (lowerHex 1 c.toNat ++ ['\x7d'])

def dumpString (text : String) : String := String.ofList (enclose '"' dumpEscape text.toList)

end Snippet.Text
