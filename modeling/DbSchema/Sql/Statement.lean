import DbSchema.Sql.Default

/-!
# SQL statements

The statements that define a database, by their parts, and the pieces of text they are written with.
-/

namespace DbSchema.Sql

/-- The name of a table where a statement mentions it. -/
structure TableName where
  qualifier : Option String
  name : String
  deriving DecidableEq, Repr

/-- The type of a column: words, the name of a declared enumeration, or the values of one. -/
inductive TypeClause where
  | words (text : String)
  | declared (name : String)
  | values (texts : List String)
  deriving DecidableEq, Repr

/-- The definition of a column in a table. -/
structure ColumnClause where
  name : String
  type : TypeClause
  notNull : Bool
  unique : Bool
  default : Option Piece
  comment : Option String
  deriving DecidableEq, Repr

/-- A foreign key constraint. -/
structure ReferenceClause where
  name : String
  column : String
  table : TableName
  referencedColumn : String
  onDelete : ReferentialAction
  onUpdate : Option ReferentialAction
  deriving DecidableEq, Repr

/-- One of the definitions between the parentheses of a table. -/
inductive TableElement where
  | column (clause : ColumnClause)
  | primaryKey (columns : List String)
  | reference (clause : ReferenceClause)
  deriving DecidableEq, Repr

/-- A parameter of a routine; only some dialects give it a default. -/
structure ParameterClause where
  direction : Option ParameterDirection
  name : String
  type : String
  default : Option Piece
  deriving DecidableEq, Repr

/-- A statement. A routine carries its comment lines, as they stand behind their dashes. -/
inductive Statement where
  | createNamespace (name : String)
  | createEnum (name : String) (values : List String)
  | createTable (table : TableName) (elements : List TableElement) (options : List Piece)
  | commentOnTable (table : TableName) (comment : String)
  | commentOnColumn (table : TableName) (column comment : String)
  | createIndex (unique : Bool) (name : String) (table : TableName) (method : Option IndexMethod)
      (columns : List String)
  | addReference (table : TableName) (clause : ReferenceClause)
  | createFunction (comment : List String) (name : String) (parameters : List ParameterClause)
      (returns language tag body : String)
  | createProcedure (comment : List String) (name : String) (parameters : List ParameterClause)
      (body : String)
  deriving DecidableEq, Repr

/-- The table name, after its qualifier if it has one. -/
def TableName.pieces (table : TableName) : List Piece :=
  match table.qualifier with
  | some qualifier => [.name qualifier, .plain ".", .name table.name]
  | none => [.name table.name]

/-- The type of a column. -/
def TypeClause.pieces : TypeClause → List Piece
  | words text => [.plain text]
  | declared name => [.name name]
  | values texts => [.plain "ENUM("] ++ Piece.literals texts ++ [.plain ")"]

/-- The pieces for an optional part. -/
def optionalPieces {α : Type} (pieces : α → List Piece) : Option α → List Piece
  | none => []
  | some value => pieces value

/-- A comment that belongs to a definition. -/
def commentClause (comment : String) : List Piece :=
  [.plain "COMMENT ", .literal comment]

/-- The definition of a column: name and type, then constraints, default and comment. -/
def ColumnClause.pieces (clause : ColumnClause) : List Piece :=
  [.name clause.name, .plain " "] ++ clause.type.pieces
    ++ (if clause.notNull then [.plain " NOT NULL"] else [])
    ++ (if clause.unique then [.plain " UNIQUE"] else [])
    ++ optionalPieces (fun value => [.plain " DEFAULT ", value]) clause.default
    ++ optionalPieces (fun comment => .plain " " :: commentClause comment) clause.comment

/-- A foreign key constraint. -/
def ReferenceClause.pieces (clause : ReferenceClause) : List Piece :=
  [.plain "CONSTRAINT ", .name clause.name, .plain " FOREIGN KEY (", .name clause.column,
      .plain ") REFERENCES "]
    ++ clause.table.pieces
    ++ [.plain " (", .name clause.referencedColumn, .plain ") ON DELETE ",
      .plain clause.onDelete.keywords]
    ++ optionalPieces (fun action => [.plain " ON UPDATE ", .plain action.keywords])
      clause.onUpdate

/-- A definition on its own line of a table. -/
def TableElement.pieces : TableElement → List Piece
  | column clause => .plain "    " :: clause.pieces
  | primaryKey columns => [.plain "    PRIMARY KEY ("] ++ Piece.names columns ++ [.plain ")"]
  | reference clause => .plain "    " :: clause.pieces

/-- A parameter of a routine. -/
def ParameterClause.pieces (clause : ParameterClause) : List Piece :=
  optionalPieces (fun direction => [.plain direction.keyword, .plain " "]) clause.direction
    ++ [.name clause.name, .plain " ", .plain clause.type]
    ++ optionalPieces (fun value => [.plain " DEFAULT ", value]) clause.default

/-- The parameters of a routine between parentheses. -/
def parameterPieces (parameters : List ParameterClause) : List Piece :=
  [.plain "("] ++ Piece.separated ", " (parameters.map ParameterClause.pieces) ++ [.plain ")"]

/-- Comment lines, each with its line end. -/
def commentPieces (lines : List String) : List Piece :=
  lines.flatMap fun line => [.comment line, .plain "\n"]

/-- The definitions of a table, each on its own line. -/
def elementPieces (elements : List TableElement) : List Piece :=
  [.plain " (\n"] ++ Piece.separated ",\n" (elements.map TableElement.pieces)
    ++ [.plain (if elements.isEmpty then ")" else "\n)")]

/-- The comment lines in front of a statement, as they stand behind their dashes. -/
def Statement.comment : Statement → List String
  | createFunction comment .. | createProcedure comment .. => comment
  | _ => []

/-- What a statement says, between its comment lines and its semicolon. -/
def Statement.core : Statement → List Piece
  | createNamespace name => [.plain "CREATE SCHEMA IF NOT EXISTS ", .name name]
  | createEnum name values =>
    [.plain "CREATE TYPE ", .name name, .plain " AS ENUM ("] ++ Piece.literals values
      ++ [.plain ")"]
  | createTable table elements options =>
    [.plain "CREATE TABLE "] ++ table.pieces ++ elementPieces elements ++ options
  | commentOnTable table comment =>
    [.plain "COMMENT ON TABLE "] ++ table.pieces ++ [.plain " IS ", .literal comment]
  | commentOnColumn table column comment =>
    [.plain "COMMENT ON COLUMN "] ++ table.pieces
      ++ [.plain ".", .name column, .plain " IS ", .literal comment]
  | createIndex unique name table method columns =>
    [.plain (if unique then "CREATE UNIQUE INDEX " else "CREATE INDEX "), .name name,
        .plain " ON "]
      ++ table.pieces
      ++ optionalPieces (fun method => [.plain " USING ", .plain method.keyword]) method
      ++ [.plain " ("] ++ Piece.names columns ++ [.plain ")"]
  | addReference table clause =>
    [.plain "ALTER TABLE "] ++ table.pieces ++ [.plain " ADD "] ++ clause.pieces
  | createFunction _ name parameters returns language tag body =>
    [.plain "CREATE OR REPLACE FUNCTION ", .name name] ++ parameterPieces parameters
      ++ [.plain "\nRETURNS ", .plain returns, .plain "\nLANGUAGE ", .verbatim language,
        .plain "\nAS ", .body tag body]
  | createProcedure _ name parameters body =>
    [.plain "DELIMITER //\nCREATE PROCEDURE ", .name name] ++ parameterPieces parameters
      ++ [.plain "\nBEGIN\n", .verbatim body, .plain "\nEND //\nDELIMITER "]

/-- The pieces of a statement. -/
def Statement.pieces (statement : Statement) : List Piece :=
  commentPieces statement.comment ++ statement.core ++ [.plain ";"]

end DbSchema.Sql
