import DbSchema.Number.Number

/-!
# JSON values

Values to be written as JSON, and their two written forms: on one line without blanks, and over
several lines with two spaces for each level.
-/

namespace DbSchema

/-- A JSON value. The members of an object are written in their order. -/
inductive Json where
  | null
  | boolean (value : Bool)
  | number (value : Number)
  | text (value : String)
  | list (items : List Json)
  | object (members : List (String × Json))
  deriving Repr

namespace Json

/-- The last two hexadecimal digits of a number. -/
def twoHexDigits (number : Nat) : List Char :=
  [Nat.digitChar (number / 16 % 16), Nat.digitChar (number % 16)]

/-- One character of a quoted text. Quote, backslash and control characters are escaped, five of
these by a letter; all others stand for themselves. -/
def escapeChar (character : Char) : List Char :=
  if character = '"' then ['\\', '"']
  else if character = '\\' then ['\\', '\\']
  else if character = '\x08' then ['\\', 'b']
  else if character = '\t' then ['\\', 't']
  else if character = '\n' then ['\\', 'n']
  else if character = '\x0c' then ['\\', 'f']
  else if character = '\r' then ['\\', 'r']
  else if character < ' ' then ['\\', 'u', '0', '0'] ++ twoHexDigits character.toNat
  else [character]

/-- A text as JSON. -/
def quoted (text : String) : List Char :=
  '"' :: (text.toList.flatMap escapeChar ++ ['"'])

/-- A truth value as JSON. -/
def booleanText (value : Bool) : List Char :=
  if value then ['t', 'r', 'u', 'e'] else ['f', 'a', 'l', 's', 'e']

mutual

/-- The value on one line. -/
def compact : Json → List Char
  | null => ['n', 'u', 'l', 'l']
  | boolean value => booleanText value
  | number value => value.text
  | text value => quoted value
  | list items => '[' :: (compactItems items ++ [']'])
  | object members => '\x7b' :: (compactMembers members ++ ['\x7d'])

/-- Items on one line. -/
def compactItems : List Json → List Char
  | [] => []
  | [item] => compact item
  | item :: items => compact item ++ ',' :: compactItems items

/-- Members on one line. -/
def compactMembers : List (String × Json) → List Char
  | [] => []
  | [(key, value)] => quoted key ++ ':' :: compact value
  | (key, value) :: members => quoted key ++ ':' :: compact value ++ ',' :: compactMembers members

end

/-- A line end and the indentation of a level. -/
def newLine (level : Nat) : List Char :=
  '\n' :: List.replicate (2 * level) ' '

mutual

/-- The value over several lines, its first line indented already. Empty lists and objects stay on
one line. -/
def pretty (level : Nat) : Json → List Char
  | null => ['n', 'u', 'l', 'l']
  | boolean value => booleanText value
  | number value => value.text
  | text value => quoted value
  | list [] => ['[', ']']
  | list (item :: items) =>
    '[' :: (prettyItems (level + 1) (item :: items) ++ newLine level ++ [']'])
  | object [] => ['\x7b', '\x7d']
  | object (member :: members) =>
    '\x7b' :: (prettyMembers (level + 1) (member :: members) ++ newLine level ++ ['\x7d'])

/-- Items on lines of their own. -/
def prettyItems (level : Nat) : List Json → List Char
  | [] => []
  | [item] => newLine level ++ pretty level item
  | item :: items => newLine level ++ pretty level item ++ ',' :: prettyItems level items

/-- Members on lines of their own. -/
def prettyMembers (level : Nat) : List (String × Json) → List Char
  | [] => []
  | [(key, value)] => newLine level ++ quoted key ++ ':' :: ' ' :: pretty level value
  | (key, value) :: members =>
    newLine level ++ quoted key ++ ':' :: ' ' :: pretty level value
      ++ ',' :: prettyMembers level members

end

/-- The text of a value on one line. -/
def compactText (value : Json) : String :=
  .ofList value.compact

/-- The text of a value over several lines. -/
def prettyText (value : Json) : String :=
  .ofList (value.pretty 0)

/-- A member that is written exactly when it has a value. -/
def optionalMember {α : Type} (name : String) (write : α → Json) :
    Option α → List (String × Json)
  | none => []
  | some value => [(name, write value)]

end Json

end DbSchema
