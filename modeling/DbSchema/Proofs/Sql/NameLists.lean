import DbSchema.Proofs.Sql.Legibility
import DbSchema.Proofs.Text.QuotedRows
import DbSchema.Sql.Definition

/-!
# Names in SQL texts

Names stand in SQL texts one by one, in lists with commas, and as a table name behind its namespace
and a point. Each of these is a row of quoted texts, and is taken apart again by a reader that knows
nothing but the quote mark and the separator. `quoted_names_decode_uniquely` says so for each kind
of row, and for the places where the statements of a schema have them.
-/

namespace DbSchema.Sql

/-- What stands between the names of a list. -/
def listSeparator : List Char :=
  [',', ' ']

/-- What stands between the names that a table name consists of. -/
def nameSeparator : List Char :=
  ['.']

/-- The names that a table name consists of. -/
def TableName.parts (table : TableName) : List String :=
  table.qualifier.toList ++ [table.name]

/-- Whether texts are written as a list between parentheses that ends the pieces, behind a front
which is the same for all of them: a reader that starts behind the opening parenthesis stops at the
closing one. -/
def EndsInList (mark quote : Char) (pieces : List String → List Piece) : Prop :=
  ∃ front, ∀ texts rest, ∃ list,
    Piece.textOf mark (pieces texts) ++ rest = front ++ '(' :: list
      ∧ Text.readRow quote listSeparator list = some (texts, ')' :: rest)

/-- Whether the names that a dialect puts into its texts are found there again. -/
structure DecodesNames (dialect : Dialect) : Prop where
  names : ∀ texts rest, Text.EndsRow dialect.quoteMark listSeparator rest →
    Text.readRow dialect.quoteMark listSeparator
      (Piece.textOf dialect.quoteMark (Piece.names texts) ++ rest) = some (texts, rest)
  literals : ∀ texts rest, Text.EndsRow '\'' listSeparator rest →
    Text.readRow '\'' listSeparator
      (Piece.textOf dialect.quoteMark (Piece.literals texts) ++ rest) = some (texts, rest)
  tableName : ∀ qualifier name rest, Text.EndsRow dialect.quoteMark nameSeparator rest →
    Text.readRow dialect.quoteMark nameSeparator
      (Piece.textOf dialect.quoteMark (Sql.tableName dialect qualifier name).pieces ++ rest) =
        some ((if dialect.hasNamespaces then qualifier.toList else []) ++ [name], rest)
  names_injective : Function.Injective fun texts =>
    Piece.textOf dialect.quoteMark (Piece.names texts)
  literals_injective : Function.Injective fun texts =>
    Piece.textOf dialect.quoteMark (Piece.literals texts)
  tableName_injective : Function.Injective fun table : TableName =>
    Piece.textOf dialect.quoteMark table.pieces
  index : ∀ table (index : Index), EndsInList dialect.quoteMark dialect.quoteMark fun columns =>
    (createIndex dialect table { index with columns }).core
  primaryKey : EndsInList dialect.quoteMark dialect.quoteMark fun columns =>
    (TableElement.primaryKey columns).pieces
  declaredEnum : ∀ name, EndsInList dialect.quoteMark '\'' fun values =>
    (Statement.createEnum name values).core
  inlineEnum : EndsInList dialect.quoteMark '\'' fun values => (TypeClause.values values).pieces

section Rows

variable {mark : Char}

/-- Groups of pieces with a text between each two are written as their texts with it between. -/
theorem textOf_separated (separator : String) (groups : List (List Piece)) :
    Piece.textOf mark (Piece.separated separator groups) =
      separator.toList.intercalate (groups.map (Piece.textOf mark)) := by
  induction groups with
  | nil => rfl
  | cons group groups inductionHypothesis =>
      cases groups with
      | nil => simp [Piece.separated]
      | cons next groups =>
          rw [separated_cons_cons, textOf_append, textOf_cons, inductionHypothesis]
          simp only [List.map_cons, List.intercalate_cons_cons, List.append_assoc, Piece.text]

/-- Names with commas between them are a row. -/
theorem textOf_names (texts : List String) :
    Piece.textOf mark (Piece.names texts) = Text.quotedRow mark listSeparator texts := by
  rw [Piece.names, textOf_separated, List.map_map, Text.quotedRow]
  simp [Function.comp_def, Piece.text, listSeparator]

/-- Literals with commas between them are a row. -/
theorem textOf_literals (texts : List String) :
    Piece.textOf mark (Piece.literals texts) = Text.quotedRow '\'' listSeparator texts := by
  rw [Piece.literals, textOf_separated, List.map_map, Text.quotedRow]
  simp [Function.comp_def, Piece.text, Text.quoteLiteral, listSeparator]

/-- A table name is a row of the names that it consists of. -/
theorem textOf_tableName (table : TableName) :
    Piece.textOf mark table.pieces = Text.quotedRow mark nameSeparator table.parts := by
  cases named : table.qualifier <;>
    simp [TableName.pieces, TableName.parts, named, Text.quotedRow, nameSeparator, Piece.text,
      List.intercalate_cons_cons]

/-- Different table names consist of different names. -/
theorem parts_injective : Function.Injective TableName.parts := by
  rintro ⟨qualifier, name⟩ ⟨qualifier', name'⟩ same
  cases qualifier <;> cases qualifier' <;> simp_all [TableName.parts]

/-- A row between parentheses is read up to the closing one. -/
theorem endsInList {quote : Char} (before : List Piece) {opening : String}
    {list : List String → List Piece} (isQuote : quote ≠ ',' ∧ quote ≠ ')')
    (opens : opening.toList.getLast? = some '(')
    (row : ∀ texts, Piece.textOf mark (list texts) = Text.quotedRow quote listSeparator texts) :
    EndsInList mark quote fun texts =>
      before ++ [.plain opening] ++ list texts ++ [.plain ")"] := by
  obtain ⟨words, split⟩ := List.getLast?_eq_some_iff.1 opens
  refine ⟨Piece.textOf mark before ++ words, fun texts rest =>
    ⟨Text.quotedRow quote listSeparator texts ++ ')' :: rest, ?_, ?_⟩⟩
  · simp [Piece.text, split, row]
  · refine Text.readRow_quotedRow ?_ ⟨?_, ?_⟩ texts
    · simpa [listSeparator] using isQuote.1.symm
    · simpa using isQuote.2.symm
    · simp [listSeparator]

/-- A row without a front is read up to the parenthesis that closes it. -/
theorem endsInList_opened {quote : Char} {opening : String} {list : List String → List Piece}
    (isQuote : quote ≠ ',' ∧ quote ≠ ')') (opens : opening.toList.getLast? = some '(')
    (row : ∀ texts, Piece.textOf mark (list texts) = Text.quotedRow quote listSeparator texts) :
    EndsInList mark quote fun texts => [.plain opening] ++ list texts ++ [.plain ")"] :=
  endsInList [] isQuote opens row

end Rows

/-- No quote mark is a separator or closes a list. -/
theorem quoteMark_ne (dialect : Dialect) :
    dialect.quoteMark ≠ ',' ∧ dialect.quoteMark ≠ ')' ∧ dialect.quoteMark ≠ '.' := by
  cases dialect <;> decide

/-- The names in the texts of a dialect are found there again. -/
theorem decodesNames (dialect : Dialect) : DecodesNames dialect := by
  obtain ⟨noComma, noParenthesis, noPoint⟩ := quoteMark_ne dialect
  have apartInList : listSeparator.head? ≠ some dialect.quoteMark := by
    simpa [listSeparator] using noComma.symm
  have apartInName : nameSeparator.head? ≠ some dialect.quoteMark := by
    simpa [nameSeparator] using noPoint.symm
  have apartFromLiteral : listSeparator.head? ≠ some '\'' := by decide
  refine ⟨?names, ?literals, ?tableName, ?names_injective, ?literals_injective,
    ?tableName_injective, ?index, ?primaryKey, ?declaredEnum, ?inlineEnum⟩
  case names =>
    intro texts rest ends
    rw [textOf_names, Text.readRow_quotedRow apartInList ends]
  case literals =>
    intro texts rest ends
    rw [textOf_literals, Text.readRow_quotedRow apartFromLiteral ends]
  case tableName =>
    intro qualifier name rest ends
    rw [textOf_tableName, Text.readRow_quotedRow apartInName ends, TableName.parts, Sql.tableName]
    split <;> rfl
  case names_injective =>
    simpa only [textOf_names] using Text.quotedRow_injective apartInList (by decide)
  case literals_injective =>
    simpa only [textOf_literals] using Text.quotedRow_injective apartFromLiteral (by decide)
  case tableName_injective =>
    simp only [textOf_tableName]
    exact (Text.quotedRow_injective apartInName (by decide)).comp parts_injective
  case index =>
    intro table index
    simp only [createIndex, Statement.core]
    exact endsInList _ ⟨noComma, noParenthesis⟩ rfl textOf_names
  case primaryKey => exact endsInList_opened ⟨noComma, noParenthesis⟩ rfl textOf_names
  case declaredEnum =>
    exact fun name => endsInList [.plain "CREATE TYPE ", .name name] (by decide) rfl textOf_literals
  case inlineEnum => exact endsInList_opened (by decide) rfl textOf_literals

/-- Quoted names and literals are read back whatever they consist of and whatever follows them, but
for another quote character, and so are the rows of them in the texts of a dialect. -/
theorem quoted_names_decode_uniquely :
    (∀ quote name rest, rest.head? ≠ some quote →
        Text.readQuoted quote ((Text.quoteWith quote name).toList ++ rest) =
          some (name.toList, rest))
      ∧ (∀ text rest, rest.head? ≠ some '\'' →
        Text.readQuoted '\'' ((Text.quoteLiteral text).toList ++ rest) = some (text.toList, rest))
      ∧ ∀ dialect, DecodesNames dialect :=
  ⟨fun _ name _ => Text.readQuoted_quoteWith name, fun text _ => Text.readQuoted_quoteWith text,
    decodesNames⟩

/-- Names of quote marks, separators and nothing are read back, before parentheses and at the
end. -/
theorem quoted_names_decode_uniquely_when_hostile :
    Text.readQuoted '"' ((Text.quoteWith '"' "a\", \"b\"\"").toList ++ [')']) =
        some ("a\", \"b\"\"".toList, [')'])
      ∧ Text.readQuoted '\'' ((Text.quoteLiteral "', '").toList ++ [',']) =
        some ("', '".toList, [','])
      ∧ (Text.EndsRow '"' listSeparator [')'] ∧ Text.readRow '"' listSeparator
        (Piece.textOf '"' (Piece.names ["a\", \"b", "", "\""]) ++ [')']) =
          some (["a\", \"b", "", "\""], [')']))
      ∧ (Text.EndsRow '\'' listSeparator [')'] ∧ Text.readRow '\'' listSeparator
        (Piece.textOf '"' (Piece.literals ["'", ", "]) ++ [')']) = some (["'", ", "], [')']))
      ∧ (Text.EndsRow '\x60' nameSeparator [' '] ∧ Text.readRow '\x60' nameSeparator
        (Piece.textOf '\x60' (tableName .mysql (some "shop") "a\x60.\x60b").pieces ++ [' ']) =
          some (["a\x60.\x60b"], [' '])) := by
  obtain ⟨names, literals, dialects⟩ := quoted_names_decode_uniquely
  have endsNames : Text.EndsRow '"' listSeparator [')'] := ⟨by decide, by decide⟩
  have endsLiterals : Text.EndsRow '\'' listSeparator [')'] := ⟨by decide, by decide⟩
  have endsName : Text.EndsRow '\x60' nameSeparator [' '] := ⟨by decide, by decide⟩
  exact ⟨names '"' _ [')'] (by decide), literals _ [','] (by decide),
    ⟨endsNames, (dialects .postgresql).names _ _ endsNames⟩,
    ⟨endsLiterals, (dialects .postgresql).literals _ _ endsLiterals⟩,
    ⟨endsName, (dialects .mysql).tableName (some "shop") _ _ endsName⟩⟩

end DbSchema.Sql
