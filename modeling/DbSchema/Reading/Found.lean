import DbSchema.Number.Number
import DbSchema.Text.Spelled

/-!
# What a reader found

The kinds of values that data texts hold, as messages name them when a reader expected something
else.
-/

namespace DbSchema

/-- The kind of a value, with the value itself where it is a single word. -/
inductive Found where
  | null
  | boolean (value : Bool)
  | number (value : Number)
  | specialNumber (word : String)
  | text (value : String)
  | list
  | object
  deriving DecidableEq, Repr

/-- The words for a value that was found, binary64 values written in the given range. -/
def Found.words (range : PointRange) : Found → String
  | null => "null"
  | boolean value => "boolean \x60" ++ (if value then "true" else "false") ++ "\x60"
  | number (.integer value) => "integer \x60" ++ .ofList (integerText value) ++ "\x60"
  | number (.float value) => "floating point \x60" ++ .ofList (value.text range) ++ "\x60"
  | specialNumber word => "floating point \x60" ++ word ++ "\x60"
  | text value => "string " ++ Text.spell value
  | list => "sequence"
  | object => "map"

end DbSchema
