import DbSchema.Json.Fault
import DbSchema.Number.Number

/-!
# Numerals

Numbers as JSON spells them, and the numbers they stand for. A numeral without fraction and exponent
that fits 64 bits stands for an integer. Every other numeral stands for a binary64 value, computed
from as many leading digits as fit 64 bits and one multiplication or division by a power of ten.
-/

namespace DbSchema.Json

/-- The parts of a numeral: digits before the point, digits behind it if there is one, and the
exponent if there is one, as whether it is negative and its digits. -/
structure Numeral where
  negative : Bool
  whole : List Char
  fraction : Option (List Char)
  exponent : Option (Bool × List Char)
  deriving DecidableEq, Repr

namespace Numeral

/-- The bound of the significands that digits are gathered into. -/
def significandBound : Nat := 0x10000000000000000

/-- The value of a decimal digit. -/
def digitValue (digit : Char) : Nat :=
  digit.toNat - '0'.toNat

/-- Appends digits to a significand while it stays below the bound; also gives the digits left. -/
def gather : (significand : Nat) → List Char → Nat × List Char
  | significand, [] => (significand, [])
  | significand, digit :: rest =>
    if significand * 10 + digitValue digit < significandBound then
      gather (significand * 10 + digitValue digit) rest
    else (significand, digit :: rest)

/-- The value of a whole number whose digits all fit: an integer, except for negative zero and
numbers below the least integer of 64 bits. -/
def wholeValue (negative : Bool) (significand : Nat) : Number :=
  if !negative then .integer (Int.ofNat significand)
  else if significand == 0 || 0x8000000000000000 < significand then
    .float (((Binary64.ofQuotient? true significand 1)).getD (.zero true))
  else .integer (-Int.ofNat significand)

/-- `value * 10 ^ exponent`, nothing when it is too large. The exponents of the table are at most
`308`; below them the value is divided by the last power once or twice more, which `fuel` counts and
after which nothing is left of it. -/
def scaleByTen : (fuel : Nat) → Binary64 → Int → Option Binary64
  | 0, value, _ => some (.zero value.negative)
  | fuel + 1, value, exponent =>
    if exponent.natAbs ≤ 308 then do
      let power ← Binary64.ofQuotient? false (Nat.pow 10 exponent.natAbs) 1
      if 0 ≤ exponent then value.multiply? power else value.divide? power
    else if value.isZero then some value
    else if 0 ≤ exponent then none
    else do
      let power ← Binary64.ofQuotient? false (Nat.pow 10 308) 1
      let smaller ← value.divide? power
      scaleByTen fuel smaller (exponent + 308)

/-- The binary64 value of `significand * 10 ^ exponent`. -/
def floatValue (negative : Bool) (significand : Nat) (exponent : Int) : Except Fault Number :=
  let scaled := (Binary64.ofQuotient? false significand 1).bind fun value =>
    scaleByTen 4 value exponent
  match scaled with
  | some value => .ok (.float (value.withSign negative))
  | none => .error .numberOutOfRange

/-- The number that a numeral stands for. Digits before the point that do not fit move the point,
digits behind it that do not fit are dropped, and an exponent of more than 31 bits leaves zero or is
out of range. -/
def value (numeral : Numeral) : Except Fault Number :=
  let (whole, left) := gather 0 numeral.whole
  match numeral.fraction, numeral.exponent, left with
  | none, none, [] => .ok (wholeValue numeral.negative whole)
  | fraction, exponent, _ =>
    let places := fraction.getD []
    let (significand, dropped) := gather whole places
    let shift := Int.ofNat left.length - Int.ofNat (places.length - dropped.length)
    match exponent with
    | none => floatValue numeral.negative significand shift
    | some (below, digits) =>
      let amount := Nat.ofDigitChars 10 digits 0
      if 0x80000000 ≤ amount then
        if significand != 0 && !below then .error .numberOutOfRange
        else .ok (.float (.zero numeral.negative))
      else
        floatValue numeral.negative significand
          (if below then shift - Int.ofNat amount else shift + Int.ofNat amount)

end Numeral

end DbSchema.Json
