import DbSchema.Number.Notation

/-!
# Numbers

The numbers of data texts: integers, which are exact, and binary64 values, which need not be.
-/

namespace DbSchema

/-- An integer or a binary64 value. The two stay apart also where they are equal as numbers. -/
inductive Number where
  | integer (value : Int)
  | float (value : Binary64)
  deriving DecidableEq, Repr, Inhabited

/-- The text of a number in data. -/
def Number.text : Number → List Char
  | integer value => integerText value
  | float value => value.text .data

end DbSchema
