import DbSchema.Text.Blank
import DbSchema.Text.Bytes
import DbSchema.Text.Lines
import DbSchema.Text.CaseTable
import DbSchema.Text.Case
import DbSchema.Text.Quoted
import DbSchema.Text.Printable
import DbSchema.Text.Spelled
import DbSchema.Number.Binary64
import DbSchema.Number.Shortest
import DbSchema.Number.Notation
import DbSchema.Time.Timestamp
import DbSchema.Time.Reading
import DbSchema.Schema.Vocabulary
import DbSchema.Number.Number
import DbSchema.Reading.Found
import DbSchema.Schema.Supply
import DbSchema.Json.Fault
import DbSchema.Json.Numeral
import DbSchema.Json.Token
import DbSchema.Json.Quoted
import DbSchema.Json.Lexer
import DbSchema.Json.Node
import DbSchema.Json.Reader
import DbSchema.Json.Record
import DbSchema.Schema.Basic
import DbSchema.Schema.Reading
import DbSchema.Schema.Construction
import DbSchema.Json.Value
import DbSchema.Schema.Writing
import DbSchema.Generation.Exchange
import DbSchema.Text.Search
import DbSchema.Sql.Piece
import DbSchema.Sql.Feature
import DbSchema.Sql.Default
import DbSchema.Sql.Statement
import DbSchema.Sql.Routine
import DbSchema.Sql.Definition
import DbSchema.Sql.Script
import DbSchema.Diagram.Label
import DbSchema.Diagram.Basic
import DbSchema.Diagram.Text
import DbSchema.Export.Artifact
import DbSchema.Workspace.Edit
import DbSchema.Workspace.Basic
import DbSchema.Toml.Item
import DbSchema.Toml.Scan
import DbSchema.Toml.Document
import DbSchema.Settings.Basic
import DbSchema.Host.Path
import DbSchema.Host.Basic
import DbSchema.Host.Files
import DbSchema.Settings.Discovery
import DbSchema.Export.Storing
import DbSchema.Cli.Arguments
import DbSchema.Cli.Style
import DbSchema.Cli.Run
import DbSchema.Main
import DbSchema.Proofs.Sql.BodyTag
import DbSchema.Proofs.Sql.Legibility
import DbSchema.Proofs.Sql.Words
import DbSchema.Proofs.Sql.Templates
import DbSchema.Proofs.Sql.Statements
import DbSchema.Proofs.Sql.Isolation
import DbSchema.Proofs.Workspace.Editing
import DbSchema.Proofs.Workspace.Closure
import DbSchema.Proofs.Workspace.Coherence
import DbSchema.Proofs.Json.Spelling
import DbSchema.Proofs.Json.Structure
import DbSchema.Proofs.Json.Conveyance
import DbSchema.Proofs.Time.Lenience
import DbSchema.Proofs.Schema.Interchange
import DbSchema.Proofs.Workspace.Reopening
import DbSchema.Proofs.Text.Stretches
import DbSchema.Proofs.Diagram.Naming
import DbSchema.Proofs.Diagram.Reader
import DbSchema.Proofs.Diagram.ReadingBack
import DbSchema.Proofs.Sql.Mentions
import DbSchema.Proofs.Sql.Provision
import DbSchema.Proofs.Workspace.Distinctness
import DbSchema.Proofs.Workspace.CreatedTables
import DbSchema.Proofs.Workspace.Junctions
import DbSchema.Proofs.Diagram.Pairs
import DbSchema.Proofs.Schema.TableOrder
import DbSchema.Proofs.Sql.TimeLine
import DbSchema.Proofs.Sql.Columns
import DbSchema.Proofs.Workspace.ColumnEdits
import DbSchema.Proofs.Diagram.ImpliedLinks
import DbSchema.Proofs.Workspace.Renaming
import DbSchema.Proofs.Sql.TagSearch
import DbSchema.Proofs.Sql.Enclosure
import DbSchema.Proofs.Sql.TableReader
import DbSchema.Proofs.Sql.Tameness
import DbSchema.Proofs.Sql.Definitions
import DbSchema.Proofs.Sql.TableReadingBack
import DbSchema.Proofs.Workspace.Repetition
import DbSchema.Proofs.Sql.EnumNames
import DbSchema.Proofs.Sql.Composition
import DbSchema.Proofs.Workspace.RelationshipEdits
import DbSchema.Proofs.Sql.MysqlView
import DbSchema.Proofs.Workspace.Independence
import DbSchema.Proofs.Workspace.Additions
import DbSchema.Proofs.Text.Returns
import DbSchema.Proofs.Sql.CommentLines
import DbSchema.Proofs.Text.Escapes
import DbSchema.Proofs.Sql.Fences
import DbSchema.Proofs.Sql.MysqlLiterals
import DbSchema.Proofs.Text.Runs
import DbSchema.Proofs.Text.LowerCase
import DbSchema.Proofs.Export.FileNames
import DbSchema.Proofs.Diagram.Labels
import DbSchema.Proofs.Text.QuotedRows
import DbSchema.Proofs.Sql.NameLists
import DbSchema.Proofs.Workspace.MissingEntities
import DbSchema.Proofs.Number.Rounding
import DbSchema.Proofs.Number.ShortestDigits
import DbSchema.Proofs.Json.Literals
import DbSchema.Proofs.Json.ShortLiterals
import DbSchema.Proofs.Json.Acceptance
import DbSchema.Proofs.Sql.NumericDefaults
import DbSchema.Proofs.Sql.References
import DbSchema.Proofs.Sql.JunctionTables
