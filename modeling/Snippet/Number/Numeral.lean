import Snippet.Number.Decimal

namespace Snippet.Number

/-- How a number is written outside the range of positional notation. -/
structure NumeralStyle where
  plusSign : Bool
  exponentWidth : Nat
  notANumber : String

def zeros (count : Nat) : List Char := List.replicate count '0'

/-- Digits with the point after the first `point` of them, padded so that a digit stands on either
side of it. -/
def positional (digits : List Char) (point : Int) : List Char :=
  if point ≤ 0 then '0' :: '.' :: (zeros (-point).toNat ++ digits)
  else
    let whole := point.toNat
    digits.take whole ++ zeros (whole - digits.length) ++ '.' ::
      (if digits.length ≤ whole then ['0'] else digits.drop whole)

/-- Digits with the point after the first and the power of ten that puts it there. -/
def exponential (style : NumeralStyle) (digits : List Char) (point : Int) : List Char :=
  let power := point - 1
  let sign := if power < 0 then ['-'] else if style.plusSign then ['+'] else []
  let size := Nat.toDigits 10 power.natAbs
  digits.take 1 ++ (if digits.length ≤ 1 then [] else '.' :: digits.drop 1) ++ 'e' ::
    (sign ++ zeros (style.exponentWidth - size.length) ++ size)

/-- Positional from `10 ^ (-4)` up to `10 ^ 16`, exponential outside. -/
def Decimal.text (style : NumeralStyle) (decimal : Decimal) : List Char :=
  let written := Nat.toDigits 10 decimal.digits
  let point := written.length + decimal.exponent
  let digits := (written.reverse.dropWhile (· == '0')).reverse
  if -4 < point && point ≤ 16 then positional digits point else exponential style digits point

/-- The shortest text that reads back as the number. -/
def Double.text (style : NumeralStyle) (x : Double) : String :=
  match x.view with
  | .notANumber => style.notANumber
  | .infinite negative => if negative then "-inf" else "inf"
  | .finite negative mantissa exponent =>
    let digits :=
      if mantissa = 0 then ['0', '.', '0'] else (shortestDecimal mantissa exponent).text style
    String.ofList (if negative then '-' :: digits else digits)

/-- Numerals in rendered code: the exponent has a sign and at least two digits. -/
def NumeralStyle.code : NumeralStyle := ⟨true, 2, "nan"⟩

/-- Numerals in dumps: the exponent is written as short as it can be. -/
def NumeralStyle.dump : NumeralStyle := ⟨false, 1, "NaN"⟩

end Snippet.Number
