namespace Snippet.Number

/-- The value of a digit or letter in bases up to 36; every other character is too great for one. -/
def digitValue (c : Char) : Nat :=
  if c.isDigit then c.toNat - '0'.toNat
  else if 'a' ≤ c && c ≤ 'z' then c.toNat - 'a'.toNat + 10
  else if 'A' ≤ c && c ≤ 'Z' then c.toNat - 'A'.toNat + 10
  else 36

/-- Digits of a kind, each of which one underscore may come before. -/
def spanDigits (isDigit : Char → Bool) : List Char → List Char × List Char
  | [] => ([], [])
  | [c] => if isDigit c then ([c], []) else ([], [c])
  | c :: d :: rest =>
    if isDigit c then
      let (digits, rest) := spanDigits isDigit (d :: rest)
      (c :: digits, rest)
    else if c = '_' ∧ isDigit d then
      let (digits, rest) := spanDigits isDigit rest
      (c :: d :: digits, rest)
    else ([], c :: d :: rest)

def decimalValue (digits : List Char) : Nat := digits.foldl (fun n c => 10 * n + digitValue c) 0

/-- The digits of a float as a whole number, and the power of ten to multiply them with. -/
def decimalOf (text : List Char) : Nat × Int :=
  let (mantissa, exponent) := text.span fun c => c != 'e' && c != 'E'
  let (whole, fraction) := mantissa.span (· != '.')
  let places := fraction.drop 1
  let shift : Int :=
    match exponent.drop 1 with
    | '-' :: digits => -decimalValue digits
    | '+' :: digits => decimalValue digits
    | digits => decimalValue digits
  (decimalValue (whole ++ places), shift - places.length)

end Snippet.Number
