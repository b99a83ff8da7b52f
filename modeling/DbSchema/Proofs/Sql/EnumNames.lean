import DbSchema.Proofs.Sql.Provision
import DbSchema.Proofs.Workspace.Distinctness

/-!
# The names of enumeration types

The type of an enumeration column is named for the table and the column, with an underscore between
the two. An underscore may be part of either name as well, so that two columns of different tables
can have one type name: `enumTypeName_eq_iff` says which. All other types are declared once each,
with the values of their column.
-/

namespace DbSchema

namespace Sql

/-- The name of the enumeration type that a statement declares. -/
def Statement.declaredEnum? : Statement → Option String
  | createEnum name _ => some name
  | _ => none

/-- The names of the enumeration types that are declared for a schema. -/
def declaredEnums (dialect : Dialect) (schema : Schema) : List String :=
  (createEnums dialect schema).filterMap Statement.declaredEnum?

/-- Whether the table of the second column is called as that of the first with a stem behind it, and
the first column as the second with the same stem in front. -/
def SharesStem (first second : String × String) : Prop :=
  ∃ stem, second.1 = first.1 ++ "_" ++ stem ∧ first.2 = stem ++ "_" ++ second.2

end Sql

/-- The enumeration columns with values, each by its name behind that of its table. -/
def Schema.enumColumns (schema : Schema) : List (String × String) :=
  schema.tables.flatMap fun table =>
    (table.columns.filter Sql.isEnumColumn).map fun column => (table.name, column.name)

namespace Sql

section Names

/-- A stem that is moved from the column to the table leaves the name of the type as it is. -/
theorem SharesStem.enumTypeName_eq {first second : String × String}
    (shared : SharesStem first second) :
    enumTypeName first.1 first.2 = enumTypeName second.1 second.2 := by
  obtain ⟨stem, table, column⟩ := shared
  rw [enumTypeName, enumTypeName, table, column]
  simp [String.append_assoc]

/-- Columns that share a stem are in tables of different names. -/
theorem SharesStem.ne {first second : String × String} (shared : SharesStem first second) :
    first.1 ≠ second.1 := by
  obtain ⟨stem, table, -⟩ := shared
  intro same
  have lengths := congrArg String.length (same.trans table)
  simp only [String.length_append] at lengths
  have underscore : "_".length = 1 := rfl
  omega

/-- Where a table name is the start of another and the types are named alike, the names are the same
or share the stem between them. -/
theorem eq_or_sharesStem {first second : String × String} {between : List Char}
    (table : second.1.toList = first.1.toList ++ between)
    (column : '_' :: first.2.toList = between ++ '_' :: second.2.toList) :
    first = second ∨ SharesStem first second := by
  cases between with
  | nil =>
      have sameTable : first.1 = second.1 := String.toList_inj.1 (by simpa using table.symm)
      have sameColumn : first.2 = second.2 := String.toList_inj.1 (by simpa using column)
      exact .inl (Prod.ext sameTable sameColumn)
  | cons underscore stem =>
      -- The underscore of the first name is in the second table name, with the stem behind it.
      obtain ⟨here, behind⟩ := List.cons.inj column
      have moved : second.1.toList = first.1.toList ++ '_' :: stem := here ▸ table
      exact .inr ⟨.ofList stem, String.toList_inj.1 (by simp [moved]),
        String.toList_inj.1 (by simp [behind])⟩

/-- The types of two columns are named alike exactly when the columns and their tables are, or one
column shares a stem with the other. -/
theorem enumTypeName_eq_iff (first second : String × String) :
    enumTypeName first.1 first.2 = enumTypeName second.1 second.2 ↔
      first = second ∨ SharesStem first second ∨ SharesStem second first := by
  constructor
  · intro same
    have ended : (first.1.toList ++ '_' :: first.2.toList) ++ "_enum".toList =
        (second.1.toList ++ '_' :: second.2.toList) ++ "_enum".toList := by
      simpa [enumTypeName] using congrArg String.toList same
    have glued := List.append_cancel_right ended
    -- One of the table names is the start of the other.
    rcases List.append_eq_append_iff.1 glued with
      ⟨between, table, column⟩ | ⟨between, table, column⟩
    · exact (eq_or_sharesStem table column).imp_right .inl
    · exact (eq_or_sharesStem table column).imp Eq.symm .inr
  · rintro (rfl | shared | shared)
    · rfl
    · exact shared.enumTypeName_eq
    · exact shared.enumTypeName_eq.symm

end Names

section Declarations

variable {schema : Schema}

/-- The types that are declared are those of the enumeration columns, in their order. -/
theorem declaredEnums_eq :
    declaredEnums .postgresql schema =
      schema.enumColumns.map fun column => enumTypeName column.1 column.2 := by
  unfold declaredEnums createEnums Schema.enumColumns
  simp [Dialect.declaresEnums, List.filterMap_flatMap, List.map_flatMap, List.filterMap_map,
    Function.comp_def, Statement.declaredEnum?]

/-- The enumeration columns of a schema are those of its tables. -/
theorem mem_enumColumns {column : String × String} :
    column ∈ schema.enumColumns ↔
      ∃ table ∈ schema.tables, ∃ known ∈ table.columns,
        isEnumColumn known = true ∧ column = (table.name, known.name) := by
  unfold Schema.enumColumns
  simp only [List.mem_flatMap, List.mem_map, List.mem_filter]
  grind

/-- With different names for tables, and for the columns of each, enumeration columns are told apart
by both names. -/
theorem nodup_enumColumns (apart : schema.ApartBy .name) : schema.enumColumns.Nodup := by
  refine List.nodup_flatMap.2 ⟨fun table member => ?_, ?_⟩
  · have columns := ((List.filter_sublist (p := isEnumColumn)).map Column.name).nodup
      (apart.columns table member)
    refine List.Nodup.of_map Prod.snd ?_
    simpa [Function.comp_def] using columns
  · refine (List.pairwise_map.1 apart.tables).imp fun {first second} other => ?_
    intro column inFirst inSecond
    obtain ⟨_, -, rfl⟩ := List.mem_map.1 inFirst
    obtain ⟨_, -, same⟩ := List.mem_map.1 inSecond
    exact other (congrArg Prod.fst same).symm

/-- With different names for tables, and for the columns of each, no type is declared twice exactly
when no two enumeration columns share a stem. -/
theorem nodup_declaredEnums_iff (apart : schema.ApartBy .name) :
    (declaredEnums .postgresql schema).Nodup ↔
      ∀ first ∈ schema.enumColumns, ∀ second ∈ schema.enumColumns, ¬SharesStem first second := by
  rw [declaredEnums_eq, List.nodup_map_iff_inj_on (nodup_enumColumns apart)]
  constructor
  · intro injective first inSchema second alsoInSchema shared
    have same := injective first inSchema second alsoInSchema shared.enumTypeName_eq
    exact shared.ne (congrArg Prod.fst same)
  · intro unshared first inSchema second alsoInSchema same
    rcases (enumTypeName_eq_iff first second).1 same with same | shared | shared
    · exact same
    · exact absurd shared (unshared first inSchema second alsoInSchema)
    · exact absurd shared (unshared second alsoInSchema first inSchema)

/-- With different names for tables, and for the columns of each, the type of an enumeration column
that shares no stem is declared with its values only. -/
theorem eq_enumValues_of_createEnum (apart : schema.ApartBy .name) {table : Table}
    (inSchema : table ∈ schema.tables) {column : Column} (inTable : column ∈ table.columns)
    (alone : ∀ other ∈ schema.enumColumns,
      ¬SharesStem (table.name, column.name) other ∧ ¬SharesStem other (table.name, column.name))
    {values : List String}
    (declared : .createEnum (enumTypeName table.name column.name) values ∈
      createEnums .postgresql schema) :
    values = column.enumValues := by
  obtain ⟨-, other, otherInSchema, known, inOther, isEnum, made⟩ := mem_createEnums.1 declared
  obtain ⟨same, rfl⟩ := Statement.createEnum.inj made
  have there : (other.name, known.name) ∈ schema.enumColumns :=
    mem_enumColumns.2 ⟨other, otherInSchema, known, inOther, isEnum, rfl⟩
  rcases (enumTypeName_eq_iff (table.name, column.name) (other.name, known.name)).1 same with
    same | shared | shared
  · obtain ⟨tableName, columnName⟩ := Prod.mk.inj same
    obtain rfl := List.inj_on_of_nodup_map apart.tables inSchema otherInSchema tableName
    obtain rfl := List.inj_on_of_nodup_map (apart.columns table inSchema) inTable inOther columnName
    rfl
  · exact absurd shared (alone _ there).1
  · exact absurd shared (alone _ there).2

/-- With different names for tables, and for the columns of each, no enumeration type is declared
twice exactly when no two enumeration columns share a stem between their names and those of their
tables. The type that an enumeration column is of is declared with the values of the column, and
with no others if the column shares no stem with another. -/
theorem enum_types_are_declared_once {schema : Schema} (apart : schema.ApartBy .name) :
    ((declaredEnums .postgresql schema).Nodup ↔
        ∀ first ∈ schema.enumColumns, ∀ second ∈ schema.enumColumns, ¬SharesStem first second)
      ∧ ∀ table ∈ schema.tables, ∀ column ∈ table.columns, isEnumColumn column = true →
        ∃ name, columnType .postgresql table.name column = .declared name
          ∧ .createEnum name column.enumValues ∈ createEnums .postgresql schema
          ∧ ((∀ other ∈ schema.enumColumns, ¬SharesStem (table.name, column.name) other
              ∧ ¬SharesStem other (table.name, column.name)) →
            ∀ values, .createEnum name values ∈ createEnums .postgresql schema →
              values = column.enumValues) := by
  refine ⟨nodup_declaredEnums_iff apart, fun table inSchema column inTable isEnum => ?_⟩
  have typed : columnType .postgresql table.name column =
      .declared (enumTypeName table.name column.name) :=
    columnType_eq_declared_iff.2 ⟨rfl, isEnum, rfl⟩
  have declared : .createEnum (enumTypeName table.name column.name) column.enumValues ∈
      createEnums .postgresql schema :=
    mem_createEnums.2 ⟨rfl, table, inSchema, column, inTable, isEnum, rfl⟩
  exact ⟨enumTypeName table.name column.name, typed, declared,
    fun alone values => eq_enumValues_of_createEnum apart inSchema inTable alone⟩

/-- A schema of tables with the given names, each with columns of an enumeration with the given
values. -/
def enumListing (tables : List (String × List (String × List String))) : Schema :=
  { Schema.empty "0" "s" .postgresql default with
    tables := tables.map fun (table, columns) =>
      { Table.empty table table with
        columns := columns.map fun (column, values) =>
          (Column.ofType column column .enum).withEnumValues values } }

/-- An underscore in both names, and a column without values that would share its stem, leave every
type with the values of its column. -/
theorem enum_types_are_declared_once_in_enumListing :
    let schema := enumListing
      [("a", [("b_c", ["x"]), ("b_d", [])]), ("a_b", [("d", ["y"]), ("b_c", ["z"])])]
    schema.ApartBy .name
      ∧ declaredEnums .postgresql schema = ["a_b_c_enum", "a_b_d_enum", "a_b_b_c_enum"]
      ∧ (∀ first ∈ schema.enumColumns, ∀ second ∈ schema.enumColumns, ¬SharesStem first second)
      ∧ .createEnum "a_b_d_enum" ["y"] ∈ createEnums .postgresql schema
      ∧ ∀ values, .createEnum "a_b_d_enum" values ∈ createEnums .postgresql schema →
        values = ["y"] := by
  intro schema
  have apart : schema.ApartBy .name := ⟨by decide, by decide⟩
  have declared : declaredEnums .postgresql schema =
      ["a_b_c_enum", "a_b_d_enum", "a_b_b_c_enum"] := by decide
  have once : (declaredEnums .postgresql schema).Nodup := declared ▸ by decide
  obtain ⟨unshared, own⟩ := enum_types_are_declared_once apart
  have apartByStem := unshared.1 once
  have inColumns : ("a_b", "d") ∈ schema.enumColumns := by decide
  obtain ⟨name, typed, inScript, only⟩ := own _ (.tail _ (.head _)) _ (.head _) rfl
  obtain rfl : "a_b_d_enum" = name := TypeClause.declared.inj typed
  exact ⟨apart, declared, apartByStem, inScript, only fun other member =>
    ⟨apartByStem _ inColumns other member, apartByStem other member _ inColumns⟩⟩

/-- Two columns that share a stem are of one type, although names are told apart. It is declared
twice, once with the values of the other column. -/
theorem enum_type_declared_twice :
    let schema := enumListing [("a", [("b_c", ["x"])]), ("a_b", [("c", ["y"])])]
    let column := (Column.ofType "c" "c" .enum).withEnumValues ["y"]
    schema.ApartBy .name ∧ declaredEnums .postgresql schema = ["a_b_c_enum", "a_b_c_enum"]
      ∧ ¬(declaredEnums .postgresql schema).Nodup
      ∧ columnType .postgresql "a_b" column = .declared "a_b_c_enum"
      ∧ .createEnum "a_b_c_enum" ["x"] ∈ createEnums .postgresql schema
      ∧ column.enumValues ≠ ["x"] := by
  refine ⟨⟨by decide, by decide⟩, ?_, ?_, ?_, ?_, ?_⟩ <;> decide

end Declarations

end Sql

end DbSchema
