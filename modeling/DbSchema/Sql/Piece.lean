import DbSchema.Text.Quoted

/-!
# Pieces of SQL text

SQL text is put together from pieces, each of which a database reads as a whole: names and literals
in their quotes, comments up to the end of their line, bodies between dollar tags, and plain text.
Only `plain` and `verbatim` pieces are written as they stand, and only the latter come from a
schema.
-/

namespace DbSchema.Sql

/-- A piece of SQL text. A comment holds what follows its two dashes, and a line end has to come
after it. -/
inductive Piece where
  | plain (text : String)
  | name (text : String)
  | literal (text : String)
  | verbatim (text : String)
  | comment (text : String)
  | body (tag text : String)
  deriving DecidableEq, Repr

namespace Piece

/-- The characters of a piece, names being quoted with the given mark. A body stands on lines of its
own between its tags. -/
def text (quote : Char) : Piece → List Char
  | plain text => text.toList
  | name text => (Text.quoteWith quote text).toList
  | literal text => (Text.quoteLiteral text).toList
  | verbatim text => text.toList
  | comment text => '-' :: '-' :: text.toList
  | body tag text => tag.toList ++ '\n' :: (text.toList ++ '\n' :: tag.toList)

/-- The characters of pieces in a row. -/
def textOf (quote : Char) (pieces : List Piece) : List Char :=
  pieces.flatMap (text quote)

/-- Groups of pieces with a plain text between each two. -/
def separated (separator : String) : List (List Piece) → List Piece
  | [] => []
  | [last] => last
  | group :: groups => group ++ .plain separator :: separated separator groups

/-- Names with commas between them. -/
def names (texts : List String) : List Piece :=
  separated ", " (texts.map fun text => [.name text])

/-- Literals with commas between them. -/
def literals (texts : List String) : List Piece :=
  separated ", " (texts.map fun text => [.literal text])

end Piece

end DbSchema.Sql
