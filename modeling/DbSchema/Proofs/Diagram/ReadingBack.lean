import DbSchema.Proofs.Diagram.Reader
import DbSchema.Schema.Construction

/-!
# Diagrams of schemas are read back

No name in a schema can break the text of its diagram, because identifiers and labels keep nothing
that a reader looks for. So the text of a diagram says neither more nor less than the diagram, and
`sketch` keeps of a schema what the diagram depends on.
-/

namespace DbSchema.Diagram

/-- The word for every column type may stand as a name. -/
theorem isName_typeWord (type : ColumnType) : IsName (typeWord type) := by
  cases type <;> exact isName_of_all (by decide) (by decide)

/-- The diagram of every schema is readable. -/
theorem isReadable_ofSchema (schema : Schema) : (ofSchema schema).IsReadable := by
  refine ⟨fun entity member => ?_, fun entity member shown inEntity => ?_, fun link member => ?_⟩
  · obtain ⟨table, -, rfl⟩ := List.mem_map.1 member
    exact isName_identifier table.name
  · obtain ⟨table, -, rfl⟩ := List.mem_map.1 member
    obtain ⟨column, -, rfl⟩ := List.mem_map.1 inEntity
    exact ⟨isName_typeWord column.type, isName_identifier column.name⟩
  · rcases List.mem_append.1 member with member | member
    · obtain ⟨relationship, -, rfl⟩ := List.mem_map.1 member
      exact ⟨isName_identifier _, isName_identifier _, isCaption_labelOf relationship⟩
    · obtain ⟨pair, -, rfl⟩ := List.mem_map.1 member
      have underscore : '_' ∈ ("has_" ++ pair.2).toList := by simp
      exact ⟨isName_identifier _, isName_identifier _, isCaption_label underscore (by decide)⟩

/-- The schema without all that diagrams do not show. -/
def sketch (schema : Schema) : Schema :=
  { Schema.empty "" "" .postgresql default with
    tables := schema.tables.map fun table =>
      { Table.empty "" table.name with
        columns := table.columns.map fun column =>
          { Column.ofType "" column.name column.type with
            isPrimaryKey := column.isPrimaryKey
            isUnique := column.isUnique }
        foreignKeys := table.foreignKeys.map fun key => .between "" "" "" key.referencedTable "" }
    relationships := schema.relationships.map fun relationship =>
      (Relationship.between "" (relationship.sourceTable, "") (relationship.targetTable, "")
        relationship.cardinality).named relationship.name }

/-- What is left out of a sketch is not shown. -/
theorem ofSchema_sketch (schema : Schema) : ofSchema (sketch schema) = ofSchema schema := by
  have entities : (sketch schema).tables.map entityOf = schema.tables.map entityOf := by
    simp [sketch, entityOf, attributeOf, markerOf, Table.empty, Column.ofType, Function.comp_def]
  have links : (sketch schema).relationships.map linkOf = schema.relationships.map linkOf := by
    simp [sketch, linkOf, labelOf, Relationship.between, Relationship.named, Function.comp_def]
  have pairs : implicitPairs (sketch schema) = implicitPairs schema := by
    simp [implicitPairs, foreignKeyPairs, sketch, Table.empty, ForeignKey.between,
      Relationship.between, Relationship.named, Function.comp_def, List.flatMap_map]
  rw [ofSchema, ofSchema, entities, links, pairs]

/-- The text of the diagram of a schema is read back: the tables and columns in order, under names
made of letters, digits and underscores, then a link for every relationship and one for every pair
of tables that only foreign keys connect, each with a label that does not break its line or its
quotes. So schemas have the same text exactly when they have the same diagram, and what is not in
the sketch of a schema has no part in it. -/
theorem compile_reads_back (schema : Schema) :
    ∃ shown, read (compile schema) = some shown
      ∧ shown.entities = (schema.tables.map fun table =>
        ⟨identifier table.name, table.columns.map fun column =>
          ⟨typeWord column.type, identifier column.name,
            if column.isPrimaryKey then some .primaryKey
            else if column.isUnique then some .unique
            else none⟩⟩)
      ∧ shown.links =
        (schema.relationships.map fun relationship =>
          ⟨identifier relationship.sourceTable, relationship.cardinality,
            identifier relationship.targetTable, labelOf relationship⟩)
        ++ ((implicitPairs schema).map fun (referenced, owner) =>
          ⟨identifier referenced, .oneToMany, identifier owner, label ("has_" ++ owner)⟩)
      ∧ (∀ entity ∈ shown.entities, IsName entity.name
        ∧ ∀ column ∈ entity.attributes, IsName column.name)
      ∧ (∀ link ∈ shown.links, link.label ≠ ""
        ∧ ∀ character ∈ link.label.toList, character ∉ ['"', '\n', '\r'])
      ∧ (∀ other, compile other = compile schema ↔ ofSchema other = ofSchema schema)
      ∧ shown = ofSchema schema ∧ compile (sketch schema) = compile schema := by
  have readable := isReadable_ofSchema schema
  have reads (schema : Schema) : read (compile schema) = some (ofSchema schema) :=
    read_text (isReadable_ofSchema schema)
  refine ⟨ofSchema schema, reads schema, rfl, rfl, fun entity member => ?_, fun link member => ?_,
    fun other => ⟨fun same => ?_, congrArg text⟩, rfl, congrArg text (ofSchema_sketch schema)⟩
  · exact ⟨readable.entities entity member,
      fun column inEntity => (readable.attributes entity member column inEntity).2⟩
  · obtain ⟨-, -, caption⟩ := readable.links link member
    refine ⟨caption.nonempty, fun character inLabel forbidden => ?_⟩
    have kinds : ['"', '\n', '\r'].all (fun other => !isIdentifierChar other && other != ' ') := by
      decide
    have kind := List.all_eq_true.1 kinds character forbidden
    simp only [Bool.and_eq_true, Bool.not_eq_true', bne_iff_ne] at kind
    exact caption.not_mem kind.1 kind.2 inLabel
  · exact Option.some.inj ((reads other).symm.trans ((congrArg read same).trans (reads schema)))

/-- A schema whose names would break lines, quotes and blocks, with a relationship whose name leaves
nothing for its label, and a foreign key that no relationship goes with. -/
def brokenNames : Schema :=
  { Schema.empty "" "s" .mysql default with
    tables :=
      [{ Table.empty "" "a \x7b\n\x7d \"PK\"" with
          columns := [(Column.ofType "" "" .integer).primaryKey.unique,
            (Column.ofType "" "né : \"x" .timestamptz).unique] },
        { Table.empty "" "" with foreignKeys := [.between "" "" "" "gone\r" "id"] }]
    relationships := [.named (.between "" ("", "id") ("\n\n", "id") .manyToMany) " \"?\"\n"] }

/-- The diagram of such a schema is read back as well. -/
theorem compile_brokenNames_reads_back :
    ∃ shown, read (compile brokenNames) = some shown
      ∧ shown.entities =
        [⟨"a______PK_", [⟨"int", "_", some .primaryKey⟩,
          ⟨"timestamptz", "n_____x", some .unique⟩]⟩, ⟨"_", []⟩]
      ∧ shown.links = [⟨"_", .manyToMany, "__", "_to_"⟩, ⟨"gone_", .oneToMany, "_", "has_"⟩]
      ∧ IsName "a______PK_" ∧ '"' ∉ "_to_".toList := by
  obtain ⟨shown, reads, entities, links, names, captions, -⟩ := compile_reads_back brokenNames
  have entities : shown.entities = [⟨"a______PK_", [⟨"int", "_", some .primaryKey⟩,
      ⟨"timestamptz", "n_____x", some .unique⟩]⟩, ⟨"_", []⟩] := entities.trans (by decide)
  have links : shown.links = [⟨"_", .manyToMany, "__", "_to_"⟩,
      ⟨"gone_", .oneToMany, "_", "has_"⟩] := links.trans (by decide)
  have named := (names _ (by rw [entities]; exact .head _)).1
  have caption := (captions ⟨"_", .manyToMany, "__", "_to_"⟩ (by rw [links]; exact .head _)).2
  exact ⟨shown, reads, entities, links, named, fun quote => caption _ quote (by decide)⟩

end DbSchema.Diagram
