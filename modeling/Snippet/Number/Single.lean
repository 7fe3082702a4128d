import Snippet.Number.Double

namespace Snippet.Number

/-- A binary32 number; a finite one is a whole number of units of `2 ^ (-149)`. -/
inductive Single where
  | notANumber
  | infinite (negative : Bool)
  | finite (units : Int)
deriving DecidableEq, Repr, Inhabited

namespace Single

def unitsPerOne : Nat := twoTo 149

def zero : Single := .finite 0

def one : Single := .finite unitsPerOne

def half : Single := .finite (unitsPerOne / 2)

/-- The whole number nearest to a ratio among those with at most 24 significant bits. -/
def roundUnits (numerator denominator : Nat) : Nat :=
  let quotient := numerator / denominator
  if quotient < twoTo 24 then divideToEven numerator denominator
  else
    let step := twoTo (quotient.log2 - 23)
    divideToEven numerator (denominator * step) * step

def ofUnits (negative : Bool) (units : Nat) : Single :=
  if twoTo 128 * unitsPerOne ≤ units then .infinite negative
  else .finite (if negative then -(units : Int) else units)

/-- The number nearest to a ratio of units, a tie going to the even mantissa. -/
def ofRatio (numerator : Int) (denominator : Nat) : Single :=
  ofUnits (numerator < 0) (roundUnits numerator.natAbs denominator)

def ofNat (n : Nat) : Single := ofRatio ((n * unitsPerOne : Nat) : Int) 1

def ofDouble (x : Double) : Single :=
  match x.view with
  | .notANumber => .notANumber
  | .infinite negative => .infinite negative
  | .finite negative mantissa exponent =>
    let scaled := mantissa * twoTo (exponent + 149).toNat
    ofRatio (if negative then -(scaled : Int) else scaled) (twoTo (-(exponent + 149)).toNat)

def add : Single → Single → Single
  | .finite x, .finite y => ofRatio (x + y) 1
  | .infinite x, .infinite y => if x = y then .infinite x else .notANumber
  | .infinite x, .finite _ => .infinite x
  | .finite _, .infinite y => .infinite y
  | .notANumber, _ => .notANumber
  | _, .notANumber => .notANumber

def neg : Single → Single
  | .notANumber => .notANumber
  | .infinite negative => .infinite !negative
  | .finite units => .finite (-units)

def isNegative : Single → Bool
  | .notANumber => false
  | .infinite negative => negative
  | .finite units => units < 0

def mul : Single → Single → Single
  | .finite x, .finite y => ofRatio (x * y) unitsPerOne
  | .notANumber, _ => .notANumber
  | _, .notANumber => .notANumber
  | x, y =>
    if x = zero || y = zero then .notANumber else .infinite (x.isNegative != y.isNegative)

/-- The whole part of a number that is not negative; zero for every other finite number and for no
number at all, the largest machine word for infinity. -/
def toNat : Single → Nat
  | .notANumber => 0
  | .infinite negative => if negative then 0 else twoTo 64 - 1
  | .finite units => units.toNat / unitsPerOne

end Single

end Snippet.Number
