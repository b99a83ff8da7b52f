import DbSchema.Text.Printable

/-!
# Texts spelled out in messages

A text shown between double quotes with everything that does not print spelled by its code point, so
that a message can show any text on one line.
-/

namespace DbSchema.Text

/-- The lower case hexadecimal digits of a number, without leading zeros. -/
def hexDigits (number : Nat) : List Char :=
  Nat.toDigits 16 number

/-- One character of a spelled text. -/
def spellChar (character : Char) : List Char :=
  if character = '\x00' then ['\\', '0']
  else if character = '\t' then ['\\', 't']
  else if character = '\r' then ['\\', 'r']
  else if character = '\n' then ['\\', 'n']
  else if character = '"' then ['\\', '"']
  else if character = '\\' then ['\\', '\\']
  else if isPrintable character then [character]
  else ['\\', 'u', '\x7b'] ++ hexDigits character.toNat ++ ['\x7d']

/-- The text between double quotes, spelled out. -/
def spell (text : String) : String :=
  .ofList ('"' :: (text.toList.flatMap spellChar ++ ['"']))

/-- The choices that a message offers, each between backquotes: one alone, two joined by "or", more
after "one of". -/
def oneOf : List String → String
  | [] => "nothing"
  | [only] => "\x60" ++ only ++ "\x60"
  | [first, second] => "\x60" ++ first ++ "\x60 or \x60" ++ second ++ "\x60"
  | choices => "one of " ++ ", ".intercalate (choices.map fun choice => "\x60" ++ choice ++ "\x60")

end DbSchema.Text
