/-!
# Finite binary64 values

The finite values of the 64-bit binary format as a sign, an integer significand and a power of two,
with rounding of any quotient of natural numbers to the nearest value. All arithmetic is exact
before the one rounding step.
-/

namespace DbSchema

/-- The value `± significand * 2 ^ exponent`. Rounding yields a significand below `2 ^ 53`, at least
`2 ^ 52` unless the exponent is the least one, `-1074`; zero keeps its sign. -/
structure Binary64 where
  negative : Bool
  significand : Nat
  exponent : Int
  deriving DecidableEq, Repr, Inhabited

namespace Binary64

/-- The least exponent of the format. -/
def leastExponent : Int := -1074

/-- The exponent of the largest finite values. -/
def greatestExponent : Int := 971

/-- Zero of either sign. -/
def zero (negative : Bool) : Binary64 :=
  ⟨negative, 0, leastExponent⟩

/-- A value is zero exactly when its significand is. -/
def isZero (value : Binary64) : Bool :=
  value.significand == 0

/-- The value with the sign replaced. -/
def withSign (negative : Bool) (value : Binary64) : Binary64 :=
  { value with negative := negative }

/-- `numerator / denominator` divided by `2 ^ exponent`, as a quotient of natural numbers. -/
def scaled (numerator denominator : Nat) (exponent : Int) : Nat × Nat :=
  if 0 ≤ exponent then (numerator, denominator * Nat.pow 2 exponent.toNat)
  else (numerator * Nat.pow 2 (-exponent).toNat, denominator)

/-- The exponent at which a positive quotient has a significand of 53 bits, or the least exponent
if that is greater. -/
def exponentOf (numerator denominator : Nat) : Int :=
  let guess : Int := Int.ofNat numerator.log2 - Int.ofNat denominator.log2 - 52
  let (top, bottom) := scaled numerator denominator guess
  let exact := if top < Nat.pow 2 52 * bottom then guess - 1 else guess
  if exact < leastExponent then leastExponent else exact

/-- The quotient rounded to a natural number; a half goes to the even neighbour. -/
def roundedQuotient (numerator denominator : Nat) : Nat :=
  let floor := numerator / denominator
  let twice := 2 * (numerator % denominator)
  if twice < denominator then floor
  else if denominator < twice then floor + 1
  else if floor % 2 == 0 then floor else floor + 1

/-- The value nearest to a quotient, or nothing when the quotient rounds past the largest value. -/
def ofQuotient? (negative : Bool) (numerator denominator : Nat) : Option Binary64 :=
  if numerator == 0 then some (zero negative)
  else
    let exponent := exponentOf numerator denominator
    let (top, bottom) := scaled numerator denominator exponent
    let rounded := roundedQuotient top bottom
    let value : Binary64 :=
      if rounded == Nat.pow 2 53 then ⟨negative, Nat.pow 2 52, exponent + 1⟩
      else ⟨negative, rounded, exponent⟩
    if greatestExponent < value.exponent then none else some value

/-- The magnitude as a quotient of natural numbers. -/
def magnitude (value : Binary64) : Nat × Nat :=
  if 0 ≤ value.exponent then (value.significand * Nat.pow 2 value.exponent.toNat, 1)
  else (value.significand, Nat.pow 2 (-value.exponent).toNat)

/-- The product of the magnitudes, rounded, or nothing when it is too large. -/
def multiply? (left right : Binary64) : Option Binary64 :=
  let (leftTop, leftBottom) := left.magnitude
  let (rightTop, rightBottom) := right.magnitude
  ofQuotient? (left.negative != right.negative) (leftTop * rightTop) (leftBottom * rightBottom)

/-- The quotient of the magnitudes, rounded, or nothing when it is too large. -/
def divide? (left right : Binary64) : Option Binary64 :=
  let (leftTop, leftBottom) := left.magnitude
  let (rightTop, rightBottom) := right.magnitude
  ofQuotient? (left.negative != right.negative) (leftTop * rightBottom) (leftBottom * rightTop)

end Binary64

end DbSchema
