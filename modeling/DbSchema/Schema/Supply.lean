import DbSchema.Time.Timestamp

/-!
# Fresh identifiers and the time

What a reader or an edit needs from outside the data: identifiers that nobody has used, and the
current time. Both are given as values, so that everything which uses them is a function of its
arguments.
-/

namespace DbSchema

/-- A source of identifiers and the current time. `spell` gives the identifier with a number; the
numbers below `issued` have been given away. -/
structure Supply where
  spell : Nat → String
  issued : Nat
  now : Timestamp

namespace Supply

/-- The next identifier and the supply without it. -/
def freshId (supply : Supply) : String × Supply :=
  (supply.spell supply.issued, { supply with issued := supply.issued + 1 })

/-- The last `width` hexadecimal digits of a number, with zeros in front. -/
def fixedHexDigits : (width : Nat) → (number : Nat) → List Char
  | 0, _ => []
  | width + 1, number => fixedHexDigits width (number / 16) ++ [Nat.digitChar (number % 16)]

/-- A universally unique identifier of version 4: thirty digits are taken from the number, and two
are fixed or partly fixed by the version and the variant. -/
def uniqueText (number : Nat) : String :=
  let digits := fixedHexDigits 30 number
  .ofList (digits.take 8 ++ ['-'] ++ (digits.drop 8).take 4 ++ ['-', '4']
    ++ (digits.drop 12).take 3 ++ ['-', Nat.digitChar (8 + number % 4)]
    ++ (digits.drop 15).take 3 ++ ['-'] ++ (digits.drop 18).take 12)

/-- The supply whose identifiers start at a given number. -/
def startingAt (number : Nat) (now : Timestamp) : Supply :=
  ⟨fun index => uniqueText (number + index), 0, now⟩

end Supply

end DbSchema
