import DbSchema.Json.Numeral

/-!
# JSON tokens

The tokens of a JSON text. A token that is spelled wrongly is a token too, and carries its fault: a
reader meets the fault only when it comes to the token. There are two ways of coming to a token.
Reading it asks for its value, passing over it only for its spelling, so each has faults of its own.
-/

namespace DbSchema.Json

/-- The marks that structure a text. -/
inductive Mark where
  | openList
  | closeList
  | openObject
  | closeObject
  | comma
  | colon
  deriving DecidableEq, Repr

/-- A quoted text: what it stands for, and the fault of its spelling if it has one. -/
structure Quoted where
  text : Except Fault String
  passFault : Option Fault
  deriving Repr

/-- A token. A `broken` one has a fault for reading and one for passing over it, and a `stray` one
is a character that starts no token. -/
inductive Token where
  | mark (mark : Mark)
  | null
  | boolean (value : Bool)
  | number (value : Except Fault Number)
  | text (quoted : Quoted)
  | broken (readFault passFault : Fault)
  | stray
  deriving Repr

end DbSchema.Json
