import DbSchema.Number.Shortest

/-!
# Number texts

How numbers are written: integers by their digits, binary64 values by their shortest digits, with a
point and at least one digit behind it, and with an exponent where a record says so.
-/

namespace DbSchema

/-- The decimal digits of a natural number. -/
def naturalText (number : Nat) : List Char :=
  Nat.toDigits 10 number

/-- A natural number is written in digits only. -/
theorem isDigit_of_mem_naturalText {number : Nat} {digit : Char}
    (member : digit ∈ naturalText number) : digit.isDigit = true :=
  Nat.isDigit_of_mem_toDigits (by decide) (by decide) member

/-- The decimal digits of an integer, after a minus sign if it is negative. -/
def integerText (number : Int) : List Char :=
  if number < 0 then '-' :: naturalText number.natAbs else naturalText number.natAbs

/-- Where a value is written with an exponent. The place of the point counts the digits before it:
places above `mostPlaces`, or at or below `leastPlaces`, take the exponent form; without limits
every value is written positionally. -/
structure PointRange where
  mostPlaces : Option Int
  leastPlaces : Option Int

/-- Data texts write a value positionally when at most sixteen digits come before its point and at
most four zeros directly behind it. -/
def PointRange.data : PointRange := ⟨some 16, some (-5)⟩

/-- Messages of the settings reader write every value positionally. -/
def PointRange.unlimited : PointRange := ⟨none, none⟩

/-- A value at this place of the point takes no exponent. -/
def PointRange.allows (range : PointRange) (places : Int) : Bool :=
  range.mostPlaces.all (places ≤ ·) && range.leastPlaces.all (· < places)

/-- The digits of a decimal with the point at its place. -/
def Decimal.positional (decimal : Decimal) : List Char :=
  let digits := naturalText decimal.digits
  let places := Int.ofNat digits.length + decimal.exponent
  if 0 ≤ decimal.exponent then
    digits ++ List.replicate decimal.exponent.toNat '0' ++ ['.', '0']
  else if 0 < places then digits.take places.toNat ++ ['.'] ++ digits.drop places.toNat
  else ['0', '.'] ++ List.replicate (-places).toNat '0' ++ digits

/-- The digits of a decimal with the point behind the first and a signed exponent. -/
def Decimal.scientific (decimal : Decimal) : List Char :=
  let digits := naturalText decimal.digits
  let exponent := Int.ofNat digits.length + decimal.exponent - 1
  let mantissa :=
    match digits with
    | first :: second :: rest => first :: '.' :: second :: rest
    | short => short
  mantissa ++ ['e'] ++ (if exponent < 0 then integerText exponent else '+' :: integerText exponent)

/-- A decimal in the form that the range asks for. -/
def Decimal.text (range : PointRange) (decimal : Decimal) : List Char :=
  let places := Int.ofNat (naturalText decimal.digits).length + decimal.exponent
  if range.allows places then decimal.positional else decimal.scientific

/-- The text of a binary64 value. Zero is written `0.0`, and the sign of zero is kept. -/
def Binary64.text (range : PointRange) (value : Binary64) : List Char :=
  (if value.negative then ['-'] else []) ++
    (if value.isZero then ['0', '.', '0'] else value.shortest.text range)

end DbSchema
