import DbSchema.Sql.Definition
import DbSchema.Sql.Routine

/-!
# SQL scripts

The whole SQL text of a schema: a header of comment lines, and behind it the sections that have
statements, each under its title.
-/

namespace DbSchema.Sql

/-- What a script depends on beside the schema: whether its header tells the time, and a dialect to
take in place of the schema's own. -/
structure Options where
  timestamp : Bool
  dialect : Option Dialect
  deriving DecidableEq, Repr

/-- The options that nobody has changed. -/
def Options.standard : Options := ⟨true, none⟩

/-- The dialect of a script. -/
def Options.dialectFor (options : Options) (schema : Schema) : Dialect :=
  options.dialect.getD schema.dialect

/-- A part of a script under a title. Each entry is a group of statements, one a line; `spaced`
sections have an empty line between entries. -/
structure Section where
  title : String
  spaced : Bool
  entries : List (List Statement)
  deriving DecidableEq, Repr

/-- A script: its dialect, the comment lines at its top, without their dashes, and its sections. -/
structure Script where
  dialect : Dialect
  header : List String
  sections : List Section
  deriving DecidableEq, Repr

/-- The comment lines at the top of a script: name and dialect, the time to the second if it is to
be told, and the description. -/
def headerLines (schema : Schema) (dialect : Dialect) (time : Option Timestamp) : List String :=
  [" Schema: " ++ Text.onOneLine schema.name, " Dialect: " ++ dialect.label]
    ++ (time.toList.map fun time => " Generated: " ++ time.textToSecond)
    ++ commentLines schema.description

/-- The sections of a schema, empty ones included. Whatever a statement refers to is created in an
earlier section. -/
def sectionsOf (dialect : Dialect) (schema : Schema) : List Section :=
  let single := List.map fun statement : Statement => [statement]
  [⟨"Schemas", false, single (createNamespaces dialect schema)⟩,
    ⟨"Enum types", false, single (createEnums dialect schema)⟩,
    ⟨"Tables", true, createTables dialect schema⟩,
    ⟨"Indexes", false, single (createIndexes dialect schema)⟩,
    ⟨"Foreign keys", false, single (addForeignKeys dialect schema)⟩,
    ⟨"Junction tables", true, single (createJunctions dialect schema)⟩,
    ⟨"Stored procedures", true, single (schema.routines.map (createRoutine dialect))⟩]

/-- The script of a schema, generated at the given time. -/
def scriptOf (options : Options) (time : Timestamp) (schema : Schema) : Script where
  dialect := options.dialectFor schema
  header :=
    headerLines schema (options.dialectFor schema) (if options.timestamp then some time else none)
  sections := sectionsOf (options.dialectFor schema) schema

/-- The pieces of an entry. -/
def entryPieces (statements : List Statement) : List Piece :=
  Piece.separated "\n" (statements.map Statement.pieces)

/-- The pieces of a section: its title on a line behind an empty one, then its entries. An empty
section has none. -/
def Section.pieces (part : Section) : List Piece :=
  if part.entries.isEmpty then []
  else
    [.plain "\n", .comment (" " ++ part.title), .plain "\n"]
      ++ Piece.separated (if part.spaced then "\n\n" else "\n") (part.entries.map entryPieces)
      ++ [.plain "\n"]

/-- The pieces of a script. -/
def Script.pieces (script : Script) : List Piece :=
  commentPieces script.header ++ script.sections.flatMap Section.pieces

/-- The text of pieces in a dialect. -/
def textIn (dialect : Dialect) (pieces : List Piece) : String :=
  .ofList (Piece.textOf dialect.quoteMark pieces)

/-- The text of a script. -/
def Script.text (script : Script) : String :=
  textIn script.dialect script.pieces

/-- The SQL text of a schema, generated at the given time. -/
def compile (options : Options) (time : Timestamp) (schema : Schema) : String :=
  (scriptOf options time schema).text

end DbSchema.Sql
