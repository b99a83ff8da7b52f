import DbSchema.Number.Binary64

/-!
# Shortest decimal digits

The decimal digits by which a binary64 value is known: the fewest digits whose decimal rounds back
to the value, and of those the decimal nearest to it.
-/

namespace DbSchema

/-- The decimal `digits * 10 ^ exponent`. -/
structure Decimal where
  digits : Nat
  exponent : Int
  deriving DecidableEq, Repr

namespace Decimal

/-- The same decimal without zeros at the end of its digits. `fuel` bounds the number of digits. -/
def stripZeros : (fuel : Nat) → Decimal → Decimal
  | 0, decimal => decimal
  | fuel + 1, decimal =>
    if decimal.digits != 0 && decimal.digits % 10 == 0 then
      stripZeros fuel ⟨decimal.digits / 10, decimal.exponent + 1⟩
    else decimal

end Decimal

namespace Binary64

/-- The reals that round to a positive value, as bounds in units of a quarter of its last place: the
bounds themselves belong to them exactly when the significand is even. -/
structure RoundingInterval where
  low : Nat
  middle : Nat
  high : Nat
  closed : Bool

/-- The interval of a positive value. Below a power of two the neighbour is half as far away. -/
def roundingInterval (value : Binary64) : RoundingInterval :=
  let quarters := 4 * value.significand
  let nearBelow := value.significand == Nat.pow 2 52 && value.exponent != leastExponent
  { low := if nearBelow then quarters - 1 else quarters - 2
    middle := quarters
    high := quarters + 2
    closed := value.significand % 2 == 0 }

/-- Whether `candidate * stepTop / stepBottom` lies in the interval. -/
def RoundingInterval.holds (interval : RoundingInterval) (candidate stepTop stepBottom : Nat) :
    Bool :=
  let point := candidate * stepTop
  let low := interval.low * stepBottom
  let high := interval.high * stepBottom
  if interval.closed then low ≤ point && point ≤ high else low < point && point < high

/-- The point of a decimal grid that lies in the interval nearest to its middle, if one does. The
nearest point is one of the two around the middle. -/
def gridPoint? (interval : RoundingInterval) (stepTop stepBottom : Nat) : Option Nat :=
  let below := interval.middle * stepBottom / stepTop
  let belowHolds := interval.holds below stepTop stepBottom && below != 0
  let aboveHolds := interval.holds (below + 1) stepTop stepBottom
  let middle := interval.middle * stepBottom
  let belowGap := middle - below * stepTop
  let aboveGap := (below + 1) * stepTop - middle
  match belowHolds, aboveHolds with
  | true, true =>
    if belowGap < aboveGap then some below
    else if aboveGap < belowGap then some (below + 1)
    else if below % 2 == 0 then some below else some (below + 1)
  | true, false => some below
  | false, true => some (below + 1)
  | false, false => none

/-- The number of decimal digits before the point of a positive quotient; zero or negative when the
quotient starts with zeros behind the point. -/
def decimalPlaces (numerator denominator : Nat) : Int :=
  if denominator ≤ numerator then
    Int.ofNat (Nat.toDigits 10 (numerator / denominator)).length
  else
    let whole := (denominator - 1) / numerator
    let places := (Nat.toDigits 10 whole).length
    if Nat.pow 10 places * numerator < denominator then -Int.ofNat places
    else 1 - Int.ofNat places

/-- The first grid point found when the number of digits grows from `count`, with at most `fuel`
attempts. -/
def searchDigits (interval : RoundingInterval) (unitTop unitBottom : Nat) (places : Int) :
    (fuel : Nat) → (count : Nat) → Option Decimal
  | 0, _ => none
  | fuel + 1, count =>
    let exponent := places - Int.ofNat count
    let (stepTop, stepBottom) :=
      if 0 ≤ exponent then (Nat.pow 10 exponent.toNat * unitBottom, unitTop)
      else (unitBottom, Nat.pow 10 (-exponent).toNat * unitTop)
    match gridPoint? interval stepTop stepBottom with
    | some digits => some (Decimal.stripZeros 20 ⟨digits, exponent⟩)
    | none => searchDigits interval unitTop unitBottom places fuel (count + 1)

/-- The shortest decimal of the magnitude of a value. Seventeen digits always suffice. -/
def shortest (value : Binary64) : Decimal :=
  if value.isZero then ⟨0, 0⟩
  else
    let (top, bottom) := value.magnitude
    let (unitTop, unitBottom) :=
      if 0 ≤ value.exponent then (Nat.pow 2 value.exponent.toNat, 4)
      else (1, 4 * Nat.pow 2 (-value.exponent).toNat)
    let places := decimalPlaces top bottom
    (searchDigits value.roundingInterval unitTop unitBottom places 18 1).getD ⟨top / bottom, 0⟩

end Binary64

end DbSchema
