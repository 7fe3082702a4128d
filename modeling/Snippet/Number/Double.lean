import Snippet.Number.Power

namespace Snippet.Number

/-- A binary64 number, given by its bits so that equal numbers of either zero stay apart. -/
structure Double where
  bits : UInt64
deriving DecidableEq, Repr, Inhabited

/-- What the bits of a number say; a finite number is `mantissa * 2 ^ exponent`. -/
inductive Double.View where
  | notANumber
  | infinite (negative : Bool)
  | finite (negative : Bool) (mantissa : Nat) (exponent : Int)
deriving DecidableEq, Repr

namespace Double

def negative (x : Double) : Bool := x.bits.toNat / twoTo 63 == 1

def biasedExponent (x : Double) : Nat := x.bits.toNat / twoTo 52 % twoTo 11

def fraction (x : Double) : Nat := x.bits.toNat % twoTo 52

def view (x : Double) : View :=
  if x.biasedExponent = 0x7FF then
    if x.fraction = 0 then .infinite x.negative else .notANumber
  else if x.biasedExponent = 0 then .finite x.negative x.fraction (-1074)
  else .finite x.negative (twoTo 52 + x.fraction) (x.biasedExponent - 1075)

def isFinite (x : Double) : Bool := x.biasedExponent != 0x7FF

def infinity : Double := ⟨0x7FF0000000000000⟩

def notANumber : Double := ⟨0x7FF8000000000000⟩

/-- The number with the other sign. -/
def neg (x : Double) : Double := ⟨x.bits ^^^ 0x8000000000000000⟩

end Double

/-- A number that is no infinity and is a number. -/
abbrev FiniteDouble := { x : Double // x.isFinite = true }

/-- The quotient rounded to the nearest whole number, a half going to the even neighbour. -/
def divideToEven (numerator denominator : Nat) : Nat :=
  let quotient := numerator / denominator
  let remainder := numerator % denominator
  if 2 * remainder > denominator || (2 * remainder == denominator && quotient % 2 == 1) then
    quotient + 1
  else
    quotient

/-- The greatest `e` with `2 ^ e` at most the positive ratio. -/
def binaryOrder (numerator denominator : Nat) : Int :=
  let guess : Int := numerator.log2 - denominator.log2
  if numerator * twoTo (-guess).toNat < denominator * twoTo guess.toNat then guess - 1 else guess

/-- The number nearest to a ratio, a tie going to the even mantissa and a value past the largest
number to infinity. -/
def Double.ofRatio (numerator denominator : Nat) : Double :=
  if numerator = 0 then ⟨0⟩
  else
    let exponent := max (binaryOrder numerator denominator - 52) (-1074)
    let mantissa :=
      divideToEven (numerator * twoTo (-exponent).toNat) (denominator * twoTo exponent.toNat)
    ⟨UInt64.ofNat (min (0x7FF * twoTo 52) ((exponent + 1074).toNat * twoTo 52 + mantissa))⟩

/-- The number nearest to `digits * 10 ^ exponent`. A power of ten far outside the range is not
multiplied out. -/
def Double.ofDecimal (digits : Nat) (exponent : Int) : Double :=
  let order := exponent + (Nat.toDigits 10 digits).length
  if digits = 0 || order < -330 then ⟨0⟩
  else if order > 310 then infinity
  else ofRatio (digits * tenTo exponent.toNat) (tenTo (-exponent).toNat)

/-- The number nearest to a whole number. -/
def Double.ofInt (n : Int) : Double :=
  let nearest := ofRatio n.natAbs 1
  if n < 0 then nearest.neg else nearest

end Snippet.Number
