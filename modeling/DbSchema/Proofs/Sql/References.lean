import DbSchema.Proofs.Sql.Definitions
import DbSchema.Proofs.Sql.NameLists

/-!
# References are read as what they are

A table may have entries that are no definitions but refer to another table. Such an entry is read
by its key words, by the names that it has in quotes, and by the two lists of columns in
parentheses. `isReadAs_reference` says that the name of the constraint, the columns and the other
table are found again, whatever characters their names have, and no entry of the other kind is taken
for a reference.
-/

namespace DbSchema.Sql

/-- A foreign key constraint, as far as it is read: its name, its columns, the names that the name
of the other table consists of, and the columns there. -/
structure Reference where
  name : String
  columns : List String
  table : List String
  referencedColumns : List String
  deriving DecidableEq, Repr

/-- An entry of a table. -/
inductive Entry where
  | definition (read : Definition)
  | reference (read : Reference)
  deriving DecidableEq, Repr

/-- The letters from the first one in quotes. -/
def fromQuoted (letters : List Letter) : List Letter :=
  letters.dropWhile fun letter => letter.role != .quoted

/-- Reads the names between the first parentheses of letters, and gives what follows these. -/
def readList (dialect : Dialect) (letters : List Letter) : Option (List String × List Letter) :=
  match itemsOf letters with
  | some (items, rest) => (items.mapM (readWholeName dialect)).map fun names => (names, rest)
  | none => none

/-- Reads a foreign key constraint: the name in front of the first parentheses, the columns in
these, and the table and its columns behind them. -/
def readReference (dialect : Dialect) (letters : List Letter) : Option Reference :=
  if ["CONSTRAINT", "FOREIGN", "KEY", "REFERENCES"].isPrefixOf (wordsOf letters) then do
    let (name, _) ← readName dialect (fromQuoted letters)
    let (columns, rest) ← readList dialect letters
    let (table, _) ← Text.readRow dialect.quoteMark nameSeparator
      ((fromQuoted rest).map Letter.character)
    let (referencedColumns, _) ← readList dialect rest
    return ⟨name, columns, table, referencedColumns⟩
  else none

/-- Reads the entry in an item. -/
def readEntry (dialect : Dialect) (item : List Letter) : Option Entry :=
  match readDefinition dialect item with
  | some definition => some (.definition definition)
  | none => (readReference dialect (item.dropWhile Letter.isBlank)).map .reference

/-- Whether an element is found among the elements of a table as the given entry: it is not cut, it
is not blank, and with any blanks around it, it is read as the entry. -/
structure IsReadAs (dialect : Dialect) (element : TableElement) (entry : Entry) : Prop where
  keeps : KeepsDepth 0 (lettersOf dialect.quoteMark element.pieces)
  filled : ∃ letter ∈ lettersOf dialect.quoteMark element.pieces, letter.isBlank = false
  reads : ∀ item, Pads (lettersOf dialect.quoteMark element.pieces) item →
    readEntry dialect item = some entry

section Letters

variable {quote : Char} {letters rest : List Letter}

/-- The letters of a column in parentheses, and those behind it. -/
def listed (quote : Char) (column : String) (rest : List Letter) : List Letter :=
  ⟨'(', .plain⟩ :: (lettersOf quote (Piece.names [column]) ++ ⟨')', .plain⟩ :: rest)

/-- What a foreign key constraint says behind the columns that it refers to. -/
def actionPieces (clause : ReferenceClause) : List Piece :=
  [.plain " ON DELETE ", .plain clause.onDelete.keywords]
    ++ optionalPieces (fun action => [.plain " ON UPDATE ", .plain action.keywords]) clause.onUpdate

/-- The letters of a foreign key constraint behind its own column, and those behind it. -/
def referenceLetters (quote : Char) (clause : ReferenceClause) (rest : List Letter) : List Letter :=
  lettersAs .plain " REFERENCES ".toList ++ (lettersOf quote clause.table.pieces ++ ⟨' ', .plain⟩
    :: listed quote clause.referencedColumn (lettersOf quote (actionPieces clause) ++ rest))

/-- A foreign key constraint as its letters: its name between key words, its column in parentheses,
and what it refers to. -/
theorem lettersOf_reference (quote : Char) (clause : ReferenceClause) (rest : List Letter) :
    lettersOf quote clause.pieces ++ rest =
      lettersAs .plain "CONSTRAINT ".toList
        ++ (lettersAs .quoted (Text.quoteWith quote clause.name).toList
          ++ (lettersAs .plain " FOREIGN KEY ".toList
            ++ listed quote clause.column (referenceLetters quote clause rest))) := by
  simp [ReferenceClause.pieces, referenceLetters, listed, actionPieces, Piece.names,
    Piece.separated, Piece.role, Piece.text]

/-- A column in parentheses has no words. -/
theorem wordsOf_listed (column : String) : wordsOf (listed quote column rest) = wordsOf rest := by
  have names : wordsOf (lettersOf quote (Piece.names [column])) = [] :=
    wordsOf_eq_nil fun letter member => (names_apart member).1
  rw [listed, wordsOf_cons rfl, wordsOf_append rfl, names, List.nil_append, wordsOf_cons rfl]

/-- The words that a foreign key constraint starts with. -/
theorem wordsOf_reference (quote : Char) (clause : ReferenceClause) (rest : List Letter) :
    ∃ more, wordsOf (lettersOf quote clause.pieces ++ rest) =
      "CONSTRAINT" :: "FOREIGN" :: "KEY" :: "REFERENCES" :: more := by
  have constraint : wordsOf (lettersAs .plain "CONSTRAINT ".toList) = ["CONSTRAINT"] := by decide
  have foreignKey : wordsOf (lettersAs .plain " FOREIGN KEY ".toList) = ["FOREIGN", "KEY"] := by
    decide
  have references : wordsOf (lettersAs .plain " REFERENCES ".toList) = ["REFERENCES"] := by decide
  have named (behind : List Letter) :
      (lettersOf quote clause.table.pieces ++ behind).head?.any Letter.isOfWord = false := by
    cases qualified : clause.table.qualifier <;>
      simp [TableName.pieces, qualified, Piece.role, Piece.text, Letter.isOfWord]
  rw [lettersOf_reference, wordsOf_append (by simp [Letter.isOfWord]), wordsOf_append rfl,
    wordsOf_append rfl, wordsOf_listed, referenceLetters, wordsOf_append (named _), constraint,
    wordsOf_quoted, foreignKey, references]
  exact ⟨_, rfl⟩

/-- Letters in front of the first one in quotes are left out. -/
theorem fromQuoted_append (apart : ∀ letter ∈ letters, letter.role ≠ .quoted) :
    fromQuoted (letters ++ rest) = fromQuoted rest :=
  List.dropWhile_append_of_pos fun letter member => by simpa using apart letter member

/-- A text in quotes comes first. -/
theorem fromQuoted_quoteWith (text : String) :
    fromQuoted (lettersAs .quoted (Text.quoteWith quote text).toList ++ rest) =
      lettersAs .quoted (Text.quoteWith quote text).toList ++ rest := by
  simp [fromQuoted]

/-- A table name comes first. -/
theorem fromQuoted_tableName (name : TableName) :
    fromQuoted (lettersOf quote name.pieces ++ rest) = lettersOf quote name.pieces ++ rest := by
  cases qualified : name.qualifier <;>
    simp [TableName.pieces, qualified, fromQuoted, Piece.role, Piece.text]

/-- A column in parentheses keeps the depth, if what is behind it does. -/
theorem KeepsDepth.listed (column : String) (keeps : KeepsDepth 0 rest) :
    KeepsDepth 0 (listed quote column rest) := by
  have names : KeepsDepth 1 (lettersOf quote (Piece.names [column])) :=
    keepsDepth_quoted.append rfl
  simpa [Sql.listed] using names.parenthesised.append keeps

/-- A table name keeps the depth. -/
theorem keepsDepth_tableName (name : TableName) :
    KeepsDepth 0 (lettersOf quote name.pieces) := by
  have point : KeepsDepth 0 (lettersAs .plain ".".toList) := by decide
  unfold TableName.pieces
  split
  · exact keepsDepth_quoted.append (point.append (keepsDepth_quoted.append rfl))
  · exact keepsDepth_quoted.append rfl

/-- What is to happen to references keeps the depth. -/
theorem keepsDepth_actions (clause : ReferenceClause) :
    KeepsDepth 0 (lettersOf quote (actionPieces clause)) := by
  have keywords (action : ReferentialAction) :
      KeepsDepth 0 (lettersAs .plain action.keywords.toList) := by
    cases action <;> decide
  have deleting : KeepsDepth 0 (lettersAs .plain " ON DELETE ".toList) := by decide
  have updating : KeepsDepth 0 (lettersAs .plain " ON UPDATE ".toList) := by decide
  have nothing : KeepsDepth 0 [] := rfl
  rw [actionPieces, lettersOf_append]
  refine (deleting.append ((keywords clause.onDelete).append nothing)).append ?_
  cases clause.onUpdate with
  | none => exact nothing
  | some action => exact updating.append ((keywords action).append nothing)

/-- A foreign key constraint keeps the depth. -/
theorem keepsDepth_reference (clause : ReferenceClause) :
    KeepsDepth 0 (lettersOf quote clause.pieces) := by
  have constraint : KeepsDepth 0 (lettersAs .plain "CONSTRAINT ".toList) := by decide
  have foreignKey : KeepsDepth 0 (lettersAs .plain " FOREIGN KEY ".toList) := by decide
  have references : KeepsDepth 0 (lettersAs .plain " REFERENCES ".toList) := by decide
  have gap : KeepsDepth 0 [⟨' ', .plain⟩] := by decide
  have referenced : KeepsDepth 0 (referenceLetters quote clause []) :=
    references.append ((keepsDepth_tableName clause.table).append
      (gap.append (.listed _ ((keepsDepth_actions clause).append rfl))))
  rw [← List.append_nil (lettersOf quote clause.pieces), lettersOf_reference]
  exact constraint.append (keepsDepth_quoted.append (foreignKey.append (.listed _ referenced)))

end Letters

section Reading

variable {dialect : Dialect}

/-- One column between parentheses is read. -/
theorem readList_listed {before : List Letter} (column : String) (rest : List Letter)
    (closed : ∀ letter ∈ before, letter.isPlain '(' = false) :
    readList dialect (before ++ listed dialect.quoteMark column rest) = some ([column], rest) := by
  obtain ⟨items, cut, read⟩ := itemsOf_names dialect rest (List.cons_ne_nil column []) closed
  rw [readList, listed, cut]
  simp [read]

/-- A table name is read as the names that it consists of, if neither a quote mark nor a point
follows it. -/
theorem readRow_tableName (name : TableName) {rest : List Letter}
    (ends : Text.EndsRow dialect.quoteMark nameSeparator (rest.map Letter.character)) :
    Text.readRow dialect.quoteMark nameSeparator
        ((lettersOf dialect.quoteMark name.pieces ++ rest).map Letter.character) =
      some (name.parts, rest.map Letter.character) := by
  have apart : nameSeparator.head? ≠ some dialect.quoteMark := by
    simpa [nameSeparator] using (quoteMark_ne dialect).2.2.symm
  rw [List.map_append, map_character_lettersOf, textOf_tableName,
    Text.readRow_quotedRow apart ends]

/-- A foreign key constraint is read, whatever follows it. -/
theorem readReference_reference (clause : ReferenceClause) (rest : List Letter) :
    readReference dialect (lettersOf dialect.quoteMark clause.pieces ++ rest) =
      some ⟨clause.name, [clause.column], clause.table.parts, [clause.referencedColumn]⟩ := by
  have noMark : ' ' ≠ dialect.quoteMark := by cases dialect <;> decide
  have name : ∃ behind, readName dialect
      (fromQuoted (lettersOf dialect.quoteMark clause.pieces ++ rest)) =
        some (clause.name, behind) := by
    rw [lettersOf_reference, fromQuoted_append (by decide), fromQuoted_quoteWith,
      readName_quoted _ (by simpa using noMark)]
    exact ⟨_, rfl⟩
  have column : readList dialect (lettersOf dialect.quoteMark clause.pieces ++ rest) =
      some ([clause.column], referenceLetters dialect.quoteMark clause rest) := by
    rw [lettersOf_reference, ← List.append_assoc, ← List.append_assoc]
    refine readList_listed clause.column _ ?_
    simp only [List.forall_mem_append]
    exact ⟨⟨by decide, fun _ => isPlain_of_mem_quoted⟩, by decide⟩
  have table : ∃ behind, Text.readRow dialect.quoteMark nameSeparator
      ((fromQuoted (referenceLetters dialect.quoteMark clause rest)).map Letter.character) =
        some (clause.table.parts, behind) := by
    rw [referenceLetters, fromQuoted_append (by decide), fromQuoted_tableName, readRow_tableName]
    · exact ⟨_, rfl⟩
    · exact ⟨by simpa using noMark, by simp [nameSeparator]⟩
  have referenced : ∃ behind, readList dialect (referenceLetters dialect.quoteMark clause rest) =
      some ([clause.referencedColumn], behind) := by
    have split : referenceLetters dialect.quoteMark clause rest =
        (lettersAs .plain " REFERENCES ".toList ++ lettersOf dialect.quoteMark clause.table.pieces
            ++ [⟨' ', .plain⟩])
          ++ listed dialect.quoteMark clause.referencedColumn
            (lettersOf dialect.quoteMark (actionPieces clause) ++ rest) := by
      simp [referenceLetters]
    rw [split, readList_listed]
    · exact ⟨_, rfl⟩
    · simp only [List.forall_mem_append]
      exact ⟨⟨by decide, closed_tableName _ _⟩, by decide⟩
  obtain ⟨words, starts⟩ := wordsOf_reference dialect.quoteMark clause rest
  obtain ⟨_, isName⟩ := name
  obtain ⟨_, isTable⟩ := table
  obtain ⟨_, isReferenced⟩ := referenced
  rw [readReference, starts, isName, column]
  simp [isTable, isReferenced]

/-- A foreign key constraint is found as its name, its column, and the table and column that it
refers to. -/
theorem isReadAs_reference (clause : ReferenceClause) :
    IsReadAs dialect (.reference clause) (.reference
      ⟨clause.name, [clause.column], clause.table.parts, [clause.referencedColumn]⟩) := by
  have indent : KeepsDepth 0 (lettersAs .plain "    ".toList) := by decide
  have letters : lettersOf dialect.quoteMark (TableElement.reference clause).pieces =
      lettersAs .plain "    ".toList ++ lettersOf dialect.quoteMark clause.pieces := rfl
  refine ⟨indent.append (keepsDepth_reference clause), ⟨⟨'C', .plain⟩, ?_, by decide⟩,
    fun item pads => ?_⟩
  · simp [TableElement.pieces, ReferenceClause.pieces, Piece.role, Piece.text]
  have indented : Pads (lettersAs .plain "    ".toList
      ++ lettersOf dialect.quoteMark clause.pieces) item := pads
  have solid : (lettersOf dialect.quoteMark clause.pieces).head?.any (!·.isBlank) = true := by
    rfl
  obtain ⟨back, dropped, -⟩ := (indented.of_append (by decide)).dropWhile solid
  -- It starts with a key word, and with another one than a primary key does.
  have unnamed : readName dialect (item.dropWhile Letter.isBlank) = none := by
    rw [dropped, lettersOf_reference]
    cases dialect <;> rfl
  have noDefinition : readDefinition dialect item = none := by
    obtain ⟨words, starts⟩ := wordsOf_reference dialect.quoteMark clause back
    rw [readDefinition, unnamed, dropped, starts]
    simp
  rw [readEntry, noDefinition, dropped, readReference_reference]
  rfl

/-- What is read as a definition is read as an entry. -/
theorem readEntry_of_readsAs {element : TableElement} {definition : Definition}
    (reads : ReadsAs dialect element definition) {item : List Letter}
    (pads : Pads (lettersOf dialect.quoteMark element.pieces) item) :
    readEntry dialect item = some (.definition definition) := by
  rw [readEntry, reads item pads]

/-- A column is found as what its clause says, if its type and its default are tame. -/
theorem isReadAs_column {clause : ColumnClause}
    (type : IsTame (lettersOf dialect.quoteMark clause.type.pieces))
    (value : ∀ piece, clause.default = some piece → IsTame (lettersOf dialect.quoteMark [piece])) :
    IsReadAs dialect (.column clause) (.definition
      (.column clause.name clause.notNull clause.unique clause.default.isSome)) := by
  exact ⟨keepsDepth_column type value, filled_column clause,
    fun _ => readEntry_of_readsAs (readsAs_column type value)⟩

/-- A primary key with columns is found as their names. -/
theorem isReadAs_primaryKey {columns : List String} (nonempty : columns ≠ []) :
    IsReadAs dialect (.primaryKey columns) (.definition (.primaryKey columns)) := by
  exact ⟨keepsDepth_primaryKey _ _, filled_primaryKey columns,
    fun _ => readEntry_of_readsAs (readsAs_primaryKey nonempty)⟩

end Reading

end DbSchema.Sql
