import DbSchema.Reading.Found
import DbSchema.Sql.Script
import DbSchema.Toml.Document

/-!
# Settings

What a settings file may set, and how it is read from TOML. Every setting has a standard value, a
section may be written as a list of its settings in order, and a setting that is not known is an
error. Of two errors the one that comes first in the file is reported.
-/

namespace DbSchema

/-- The settings of the program. -/
structure Settings where
  dialect : Option Dialect
  timestamp : Bool
  directory : String
  deriving DecidableEq, Repr

/-- Why a text holds no settings. -/
inductive SettingsFault where
  | notToml
  | unknownField (name : String) (choices : List String)
  | unknownVariant (word : String) (choices : List String)
  | invalidType (found : Found) (expected : String)
  | notTextOrTable
  | noElement
  | manyElements
  | nonEmptyTable
  | nonEmptyList
  | notTable (kind : String)
  deriving DecidableEq, Repr

/-- The text of the fault. -/
def SettingsFault.message : SettingsFault → String
  | notToml => "not a valid document"
  | unknownField name choices =>
    "unknown field \x60" ++ name ++ "\x60, expected " ++ Text.oneOf choices
  | unknownVariant word choices =>
    "unknown variant \x60" ++ word ++ "\x60, expected " ++ Text.oneOf choices
  | invalidType found expected =>
    "invalid type: " ++ found.words .unlimited ++ ", expected " ++ expected
  | notTextOrTable => "wanted string or table"
  | noElement => "wanted exactly 1 element, found 0 elements"
  | manyElements => "wanted exactly 1 element, more than 1 element"
  | nonEmptyTable => "expected empty table"
  | nonEmptyList => "expected empty array"
  | notTable kind => "expected table, found " ++ kind

namespace Settings

open Toml (Item)

/-- The settings that nobody has changed. -/
def standard : Settings := ⟨none, true, "."⟩

/-- The options that SQL is compiled with. -/
def options (settings : Settings) : Sql.Options :=
  ⟨settings.timestamp, settings.dialect⟩

/-- What an item is, for messages. -/
def found : Item → Found
  | .text value => .text value
  | .integer value => .number (.integer value)
  | .real (.finite value) => .number (.float value)
  | .real (.infinite negative) => .specialNumber (if negative then "-inf" else "inf")
  | .real .notANumber => .specialNumber "NaN"
  | .boolean value => .boolean value
  | .dateTime | .table _ _ => .object
  | .list _ | .tables _ => .list

/-- The word for the kind of an item that is neither a table nor a list. -/
def kindWord : Item → String
  | .text _ => "string"
  | .integer _ => "integer"
  | .real _ => "float"
  | .boolean _ => "boolean"
  | .dateTime => "datetime"
  | .list _ => "array"
  | .table _ _ => "table"
  | .tables _ => "array of tables"

/-- Reads a truth value. -/
def readBoolean : Item → Except SettingsFault Bool
  | .boolean value => .ok value
  | item => .error (.invalidType (found item) "a boolean")

/-- Reads a path. -/
def readPath : Item → Except SettingsFault String
  | .text value => .ok value
  | item => .error (.invalidType (found item) "path string")

/-- Reads the empty table or list that goes with a choice in table form. -/
def readNothing : Item → Except SettingsFault Unit
  | .table _ entries => if entries.isEmpty then .ok () else .error .nonEmptyTable
  | .list items => if items.isEmpty then .ok () else .error .nonEmptyTable
  | .tables all => if all.isEmpty then .ok () else .error .nonEmptyList
  | item => .error (.notTable (kindWord item))

/-- Looks up a word among choices. -/
def choose {α : Type} (choices : List (String × α)) (word : String) : Except SettingsFault α :=
  match choices.lookup word with
  | some value => .ok value
  | none => .error (.unknownVariant word (choices.map Prod.fst))

/-- Reads one of several choices: a text that names it, or a table with that name as its only key
and nothing under it. -/
def readChoice {α : Type} (choices : List (String × α)) : Item → Except SettingsFault α
  | .text word => choose choices word
  | .table _ [] => .error .noElement
  | .table _ [(key, value)] => do
    let chosen ← choose choices key
    readNothing value
    return chosen
  | .table _ _ => .error .manyElements
  | _ => .error .notTextOrTable

/-- A setting of a section: its name, and how its value changes the settings. -/
structure Field where
  name : String
  read : Item → Except SettingsFault (Settings → Settings)

/-- Reads the entries of a section. -/
def readEntries (fields : List Field) (settings : Settings) :
    List (String × Item) → Except SettingsFault Settings
  | [] => .ok settings
  | (key, item) :: entries =>
    match fields.find? fun field => field.name == key with
    | none => .error (.unknownField key (fields.map Field.name))
    | some field => do
      let change ← field.read item
      readEntries fields (change settings) entries

/-- Reads the items of a section in list form; items behind the last setting are passed over. -/
def readItems (settings : Settings) : List Field → List Item → Except SettingsFault Settings
  | field :: fields, item :: items => do
    let change ← field.read item
    readItems (change settings) fields items
  | _, _ => .ok settings

/-- The key under which a date or time shows when it is read as a section. -/
def dateTimeKey : String := "$__toml_private_datetime"

/-- Reads a section. -/
def readSection (title : String) (fields : List Field) (settings : Settings) :
    Item → Except SettingsFault Settings
  | .table _ entries => readEntries fields settings entries
  | .list items => readItems settings fields items
  | .tables all => readItems settings fields (all.map (.table .header))
  | .dateTime => .error (.unknownField dateTimeKey (fields.map Field.name))
  | item => .error (.invalidType (found item) title)

/-- The settings for compiling. -/
def compileFields : List Field :=
  [⟨"dialect", fun item => do
      let dialect ← readChoice Dialect.tags item
      return fun settings => { settings with dialect := some dialect }⟩,
    ⟨"timestamp", fun item => do
      let timestamp ← readBoolean item
      return fun settings => { settings with timestamp }⟩]

/-- The settings for exporting. -/
def exportFields : List Field :=
  [⟨"dir", fun item => do
      let directory ← readPath item
      return fun settings => { settings with directory }⟩]

/-- The sections, which are settings of the whole text. -/
def sections : List Field :=
  [⟨"compile", fun item => do
      let read ← readSection "struct CompileConfig" compileFields standard item
      return fun settings => { read with directory := settings.directory }⟩,
    ⟨"export", fun item => do
      let read ← readSection "struct ExportConfig" exportFields standard item
      return fun settings => { settings with directory := read.directory }⟩]

/-- The settings that a text holds. -/
def ofText? (text : String) : Except SettingsFault Settings :=
  match Toml.ofText? text with
  | none => .error .notToml
  | some entries => readEntries sections standard entries

end Settings

end DbSchema
