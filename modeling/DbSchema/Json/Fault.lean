/-!
# Faults of JSON texts

The ways in which a text fails to be JSON, each with its wording.
-/

namespace DbSchema.Json

/-- A fault in the spelling of a JSON text. -/
inductive Fault where
  | endOfValue
  | endOfText
  | endOfList
  | endOfObject
  | expectedValue
  | expectedWord
  | expectedColon
  | expectedListComma
  | expectedObjectComma
  | keyNotText
  | trailingComma
  | trailingCharacters
  | invalidNumber
  | numberOutOfRange
  | invalidEscape
  | loneSurrogate
  | unpairedSurrogate
  | controlCharacter
  | tooDeep
  deriving DecidableEq, Repr

/-- The text of the fault. -/
def Fault.message : Fault → String
  | endOfValue => "EOF while parsing a value"
  | endOfText => "EOF while parsing a string"
  | endOfList => "EOF while parsing a list"
  | endOfObject => "EOF while parsing an object"
  | expectedValue => "expected value"
  | expectedWord => "expected ident"
  | expectedColon => "expected \x60:\x60"
  | expectedListComma => "expected \x60,\x60 or \x60]\x60"
  | expectedObjectComma => "expected \x60,\x60 or \x60\x7d\x60"
  | keyNotText => "key must be a string"
  | trailingComma => "trailing comma"
  | trailingCharacters => "trailing characters"
  | invalidNumber => "invalid number"
  | numberOutOfRange => "number out of range"
  | invalidEscape => "invalid escape"
  | loneSurrogate => "lone leading surrogate in hex escape"
  | unpairedSurrogate => "unexpected end of hex escape"
  | controlCharacter => "control character (\\u0000-\\u001F) found while parsing a string"
  | tooDeep => "recursion limit exceeded"

end DbSchema.Json
