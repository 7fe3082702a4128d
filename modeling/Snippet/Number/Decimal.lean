import Snippet.Number.Double

namespace Snippet.Number

/-- The value `digits * 10 ^ exponent`. -/
structure Decimal where
  digits : Nat
  exponent : Int
deriving DecidableEq, Repr

/-- The reals that round to a finite number, as multiples of a common unit: all between the bounds,
and the bounds too when `closed`. -/
structure RoundingInterval where
  lower : Nat
  value : Nat
  upper : Nat
  closed : Bool
deriving DecidableEq, Repr

/-- The rounding interval of `mantissa * 2 ^ exponent` in units of `2 ^ (exponent - 2)`. Below a
power of two the neighbour is half as far away. -/
def RoundingInterval.ofMantissa (mantissa : Nat) (exponent : Int) : RoundingInterval where
  lower := if mantissa = twoTo 52 && exponent != -1074 then 4 * mantissa - 1 else 4 * mantissa - 2
  value := 4 * mantissa
  upper := 4 * mantissa + 2
  closed := mantissa % 2 == 0

def RoundingInterval.contains (interval : RoundingInterval) (scale point : Nat) : Bool :=
  if interval.closed then interval.lower * scale ≤ point && point ≤ interval.upper * scale
  else interval.lower * scale < point && point < interval.upper * scale

/-- The greatest `e` with `10 ^ e` at most the positive ratio. -/
def decimalOrder (numerator denominator : Nat) : Int :=
  if denominator ≤ numerator then ((Nat.toDigits 10 (numerator / denominator)).length : Int) - 1
  else -((Nat.toDigits 10 ((denominator - 1) / numerator)).length : Int)

/-- The decimal on the grid of multiples of `10 ^ place` that lies in the rounding interval of
`mantissa * 2 ^ exponent` and next to it; the nearer of two, and the larger of two as near. -/
def gridNeighbour (mantissa : Nat) (exponent place : Int) : Option Decimal :=
  let interval := RoundingInterval.ofMantissa mantissa exponent
  let unit := twoTo (exponent - 2).toNat * tenTo (-place).toNat
  let step := twoTo (2 - exponent).toNat * tenTo place.toNat
  let below := interval.value * unit / step
  let above := below + 1
  let holds := fun digits => interval.contains unit (digits * step)
  let belowNearer := interval.value * unit - below * step < above * step - interval.value * unit
  if holds below && (belowNearer || !holds above) then some ⟨below, place⟩
  else if holds above then some ⟨above, place⟩
  else none

/-- The first grid that has a point in the rounding interval, the coarsest first. -/
def firstGrid (mantissa : Nat) (exponent order : Int) : Nat → Nat → Option Decimal
  | 0, _ => none
  | fuel + 1, count =>
    match gridNeighbour mantissa exponent (order - count) with
    | some decimal => some decimal
    | none => firstGrid mantissa exponent order fuel (count + 1)

/-- The decimal with the fewest digits that reads back as the positive number
`mantissa * 2 ^ exponent`; seventeen digits always suffice. -/
def shortestDecimal (mantissa : Nat) (exponent : Int) : Decimal :=
  let order := decimalOrder (mantissa * twoTo exponent.toNat) (twoTo (-exponent).toNat)
  (firstGrid mantissa exponent order 17 0).getD ⟨mantissa, exponent⟩

end Snippet.Number
