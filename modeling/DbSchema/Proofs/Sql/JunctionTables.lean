import DbSchema.Proofs.Sql.References
import DbSchema.Proofs.Sql.TableReadingBack

/-!
# Junction tables are well formed

The text that creates a junction table is read back as three columns, a primary key over the first
two of them, and from each of these a reference to one of the joined tables. Whether that makes a
table depends on the names alone (`isWellFormedJunction_iff`). Those that are made up from the names
of two tables never meet, whatever these are and also when they are the same:
`made_up_junctions_are_well_formed`.
-/

namespace DbSchema.Sql

/-- Reads the entries of the table that a text creates. -/
def readEntries (dialect : Dialect) (text : List Char) : Option (List Entry) :=
  match itemsOf (scan dialect .plain text).letters with
  | some (items, _) => items.mapM (readEntry dialect)
  | none => none

/-- The name of the constraint by which a column of a junction table refers to a joined table. -/
def junctionKey (junction : JunctionTable) (column : String) : String :=
  "fk_" ++ junction.name ++ "_" ++ column

/-- What the text that creates the junction table of a relationship is to be read as: two key
columns and the time of creation, a primary key over the key columns, and a reference from each of
them, the first to the source table and the second to the target table. -/
def junctionEntries (dialect : Dialect) (schema : Schema) (relationship : Relationship)
    (junction : JunctionTable) : List Entry :=
  [.definition (.column junction.sourceColumn false false false),
    .definition (.column junction.targetColumn false false false),
    .definition (.column "created_at" false false true),
    .definition (.primaryKey [junction.sourceColumn, junction.targetColumn]),
    .reference ⟨junctionKey junction junction.sourceColumn, [junction.sourceColumn],
      (referencedName dialect schema relationship.sourceTable).parts, [relationship.sourceColumn]⟩,
    .reference ⟨junctionKey junction junction.targetColumn, [junction.targetColumn],
      (referencedName dialect schema relationship.targetTable).parts, [relationship.targetColumn]⟩]

/-- Whether the names of a junction make well-formed tables: its columns have different names, and
so have its constraints, and in every dialect the text that creates the junction table of a
relationship with these names is read as its entries. -/
structure IsWellFormedJunction (junction : JunctionTable) : Prop where
  columns : [junction.sourceColumn, junction.targetColumn, "created_at"].Nodup
  keys : junctionKey junction junction.sourceColumn ≠ junctionKey junction junction.targetColumn
  reads : ∀ dialect schema (relationship : Relationship), ∃ statement,
    createJunction? dialect schema
        { relationship with cardinality := .manyToMany, junction := some junction } =
      some statement
    ∧ readEntries dialect (textIn dialect statement.pieces).toList =
      some (junctionEntries dialect schema relationship junction)

section Reading

variable {dialect : Dialect}

/-- The elements that a table is created with are read from the text of the statement. -/
theorem readEntries_createTable {name : TableName} {elements : List TableElement}
    {options : List Piece} {entries : List Entry}
    (legible : Legible dialect (Statement.createTable name elements options).core)
    (reads : List.Forall₂ (IsReadAs dialect) elements entries) :
    let statement := Statement.createTable name elements options
    readEntries dialect (textIn dialect statement.pieces).toList = some entries := by
  intro statement
  have text : (textIn dialect statement.pieces).toList =
      Piece.textOf dialect.quoteMark statement.core ++ [';'] := by
    simp [statement, textIn, Statement.pieces, Statement.comment, commentPieces, Piece.text]
  have ends : ([';'] : List Char).head? ≠ some dialect.quoteMark ∧ [';'].head? ≠ some '\'' := by
    cases dialect <;> decide
  have keeps : ∀ element ∈ elements, KeepsDepth 0 (lettersOf dialect.quoteMark element.pieces) :=
    ((List.forall₂_and_left _ _).1 (reads.imp fun _ _ isRead => ⟨isRead.keeps, isRead⟩)).1
  have filled : ∀ element ∈ elements, ∃ letter ∈ lettersOf dialect.quoteMark element.pieces,
      letter.isBlank = false :=
    ((List.forall₂_and_left _ _).1 (reads.imp fun _ _ isRead => ⟨isRead.filled, isRead⟩)).1
  obtain ⟨items, cut, pads⟩ := itemsOf_elementPieces
    (lettersOf dialect.quoteMark options ++ (scan dialect .plain [';']).letters)
    (closed_named dialect.quoteMark name) keeps filled
  rw [readEntries, text, scan_textOf legible ends, Scan.after, Statement.core]
  simp only [lettersOf_append, List.append_assoc] at cut ⊢
  rw [cut]
  exact mapM_of_pads pads (List.forall₂_map_left_iff.2 (reads.imp fun _ _ isRead => isRead.reads))

/-- A column of a junction table is found, if its default is tame. -/
theorem isReadAs_junctionColumn (name : String) (type : ColumnType) {value : Option Piece}
    (tame : ∀ piece, value = some piece → IsTame (lettersOf dialect.quoteMark [piece])) :
    IsReadAs dialect (junctionColumn dialect name type value)
      (.definition (.column name false false value.isSome)) := by
  refine isReadAs_column ?_ tame
  simpa [TypeClause.pieces, Piece.role, Piece.text] using isTame_typeKeyword dialect type

/-- The text that creates a junction table is read as its three columns, its primary key and its two
references, whatever names it has. -/
theorem junctionStatement_reads_back (dialect : Dialect) (schema : Schema)
    (relationship : Relationship) (junction : JunctionTable) :
    readEntries dialect
        (textIn dialect (junctionStatement dialect schema relationship junction).pieces).toList =
      some (junctionEntries dialect schema relationship junction) := by
  have now : ∀ piece, some (Piece.plain "CURRENT_TIMESTAMP") = some piece →
      IsTame (lettersOf dialect.quoteMark [piece]) := by
    rintro _ ⟨⟩
    exact (by decide : IsTame (lettersAs .plain "CURRENT_TIMESTAMP".toList))
  refine readEntries_createTable
    (isCuttable_junctionStatement schema relationship junction).legible ?_
  exact .cons (isReadAs_junctionColumn _ _ (by simp)) <|
    .cons (isReadAs_junctionColumn _ _ (by simp)) <|
    .cons (isReadAs_junctionColumn _ _ now) <|
    .cons (isReadAs_primaryKey (by simp)) <|
    .cons (isReadAs_reference _) <| .cons (isReadAs_reference _) .nil

end Reading

section Names

/-- A name that is made up for a key column is not that of the third column. -/
theorem append_id_ne_created_at (name : String) : name ++ "_id" ≠ "created_at" := by
  intro same
  have last := congrArg (fun text : String => text.toList.getLast?) same
  simp at last

/-- The key columns of a made up junction have different names. -/
theorem sourceColumn_ne_targetColumn (source target : String) :
    (JunctionTable.forTables source target).sourceColumn ≠
      (JunctionTable.forTables source target).targetColumn := by
  unfold JunctionTable.forTables
  split
  case isTrue =>
    intro same
    have first := congrArg (fun text : String => text.toList.head?) same
    simp at first
  case isFalse apart =>
    intro same
    have tables := congrArg String.toList same
    simp only [String.toList_append, List.append_cancel_right_eq, String.toList_inj] at tables
    exact apart (beq_iff_eq.2 tables)

/-- The columns of a made up junction have different names. -/
theorem nodup_columns_forTables (source target : String) :
    [(JunctionTable.forTables source target).sourceColumn,
      (JunctionTable.forTables source target).targetColumn, "created_at"].Nodup := by
  have keys := sourceColumn_ne_targetColumn source target
  have made : ∃ sourceName targetName,
      (JunctionTable.forTables source target).sourceColumn = sourceName ++ "_id"
        ∧ (JunctionTable.forTables source target).targetColumn = targetName ++ "_id" := by
    unfold JunctionTable.forTables
    split <;> exact ⟨_, _, rfl, rfl⟩
  obtain ⟨sourceName, targetName, isSource, isTarget⟩ := made
  have notSource := append_id_ne_created_at sourceName
  have notTarget := append_id_ne_created_at targetName
  rw [← isSource] at notSource
  rw [← isTarget] at notTarget
  simp [keys, notSource, notTarget]

/-- Columns of one junction table have constraints of one name only if they have one name. -/
theorem junctionKey_injective (junction : JunctionTable) :
    Function.Injective (junctionKey junction) := by
  intro column column' same
  have keys := congrArg String.toList same
  exact String.toList_inj.1 (by simpa [junctionKey] using keys)

/-- Junction tables are well formed exactly when their columns have different names. -/
theorem isWellFormedJunction_iff {junction : JunctionTable} :
    IsWellFormedJunction junction ↔
      [junction.sourceColumn, junction.targetColumn, "created_at"].Nodup := by
  refine ⟨IsWellFormedJunction.columns, fun columns => ⟨columns, ?_, ?_⟩⟩
  · refine (junctionKey_injective junction).ne ?_
    intro same
    simp [same] at columns
  · intro dialect schema relationship
    exact ⟨_, rfl, junctionStatement_reads_back dialect schema
      { relationship with cardinality := .manyToMany, junction := some junction } junction⟩

end Names

/-- The junction tables whose names are made up from those of two tables are well formed, whatever
the two names are, and also when they are the same. The key columns and the column `created_at` have
three different names, the primary key is over the first two of them, and from each of these a
reference goes out, the first to the source table and the second to the target table, under two
different names. -/
theorem made_up_junctions_are_well_formed (source target : String) :
    IsWellFormedJunction (JunctionTable.forTables source target) :=
  isWellFormedJunction_iff.2 (nodup_columns_forTables source target)

end DbSchema.Sql
