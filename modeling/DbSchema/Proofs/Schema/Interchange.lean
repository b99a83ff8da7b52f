import DbSchema.Generation.Exchange
import DbSchema.Proofs.Json.Conveyance
import DbSchema.Proofs.Time.Lenience

/-!
# Records are conveyed

What is written for a record of a schema, and for what is exchanged with a generator, conveys that
record to its reader. Each record follows from its own fields alone: its members come in the order
of its fields, and a field that is left out has the blank value. `Portable` says what is asked of a
record. It is a condition on default values and timestamps only, since every text is conveyed.
-/

namespace DbSchema

open Json (Conveys Fills Reader conveys_boolean conveys_choice conveys_list conveys_text
  conveys_word32)

section Conditions

/-- A default value is portable unless it is a number that is not a 64 bit integer. -/
def DefaultValue.Portable : DefaultValue → Prop
  | number value => Json.IsExact value
  | null | boolean _ | text _ => True

/-- A column is portable when its default is. -/
def Column.Portable (column : Column) : Prop :=
  ∀ value, column.default = some value → value.Portable

/-- A table is portable when its columns are. -/
def Table.Portable (table : Table) : Prop :=
  ∀ column ∈ table.columns, column.Portable

/-- A parameter is portable when its default is. -/
def Parameter.Portable (parameter : Parameter) : Prop :=
  ∀ value, parameter.default = some value → value.Portable

/-- A routine is portable when its parameters are. -/
def Routine.Portable (routine : Routine) : Prop :=
  ∀ parameter ∈ routine.parameters, parameter.Portable

/-- A point of time is portable in a year of at most four digits. -/
def Timestamp.Portable (time : Timestamp) : Prop :=
  0 ≤ time.year ∧ time.year ≤ 9999

/-- A schema is portable when everything in it is. -/
structure Schema.Portable (schema : Schema) : Prop where
  tables : ∀ table ∈ schema.tables, table.Portable
  routines : ∀ routine ∈ schema.routines, routine.Portable
  createdAt : schema.createdAt.Portable
  updatedAt : schema.updatedAt.Portable

/-- An answer is portable when the schema that it carries is. -/
def GenerationResponse.Portable (response : GenerationResponse) : Prop :=
  ∀ schema, response.schema = some schema → schema.Portable

end Conditions

variable {depth : Nat}

section Words

theorem conveys_dialect (dialect : Dialect) :
    Conveys (.text dialect.tag) Dialect.read depth dialect :=
  conveys_choice (by cases dialect <;> rfl)

theorem conveys_columnType (type : ColumnType) :
    Conveys (.text type.tag) ColumnType.read depth type :=
  conveys_choice (by cases type <;> rfl)

theorem conveys_cardinality (cardinality : Cardinality) :
    Conveys (.text cardinality.tag) Cardinality.read depth cardinality :=
  conveys_choice (by cases cardinality <;> rfl)

theorem conveys_action (action : ReferentialAction) :
    Conveys (.text action.keywords) ReferentialAction.read depth action :=
  conveys_choice (by cases action <;> rfl)

theorem conveys_method (method : IndexMethod) :
    Conveys (.text method.tag) IndexMethod.read depth method :=
  conveys_choice (by cases method <;> rfl)

theorem conveys_direction (direction : ParameterDirection) :
    Conveys (.text direction.keyword) ParameterDirection.read depth direction :=
  conveys_choice (by cases direction <;> rfl)

/-- The tag of a return type is one of its spellings. -/
theorem ofText?_tag (type : ReturnType) : ReturnType.ofText? type.tag = .ok type := by
  cases type with
  | void | table => rfl
  | scalar type => cases type <;> rfl

theorem conveys_returnType (type : ReturnType) :
    Conveys (.text type.tag) ReturnType.read depth type := by
  refine ⟨trivial, (Json.gives_pure depth type.tag).bind ?_⟩
  rw [ofText?_tag]
  exact Json.gives_pure depth type

/-- A point of time is conveyed by its text. -/
theorem conveys_timestamp {time : Timestamp} (portable : time.Portable) :
    Conveys (.text time.text) Timestamp.read depth time := by
  refine ⟨trivial, (Json.gives_pure depth time.text).bind ?_⟩
  rw [Timestamp.ofLenientText?_text portable]
  exact Json.gives_pure depth time

/-- A default value is conveyed by a value of its own kind, so that null is not taken for an absent
default. -/
theorem conveys_default {value : DefaultValue} (portable : value.Portable) :
    Conveys value.toJson DefaultValue.read depth value := by
  cases value with
  | null => exact ⟨trivial, Json.gives_pure depth _⟩
  | boolean value => exact ⟨trivial, Json.gives_pure depth _⟩
  | number value => exact ⟨portable, (Json.gives_pure depth value).map DefaultValue.number⟩
  | text value => exact ⟨trivial, (Json.gives_pure depth value).map DefaultValue.text⟩

end Words

section Records

theorem conveys_column {column : Column} (portable : column.Portable) :
    Conveys column.toJson Column.shape.read (depth + 2) column := by
  refine Fills.conveys (by decide) ?_
  simp only [List.append_assoc, List.cons_append, List.nil_append]
  refine .present ((conveys_text column.id).map _) ?_
  refine .present ((conveys_text column.name).map _) ?_
  refine .present ((conveys_columnType column.type).map _) ?_
  refine .optional nofun rfl (fun length _ => conveys_word32 length) ?_
  refine .optional nofun rfl (fun precision _ => conveys_word32 precision) ?_
  refine .optional nofun rfl (fun scale _ => conveys_word32 scale) ?_
  refine .present ((conveys_boolean column.isPrimaryKey).map _) ?_
  refine .present ((conveys_boolean column.isNullable).map _) ?_
  refine .present ((conveys_boolean column.isUnique).map _) ?_
  refine .maybe (fun value (column : Column) => { column with default := value }) rfl rfl
    (fun value given => (conveys_default (portable value given)).map _) ?_
  refine .unlessEmpty rfl (conveys_list fun value _ => conveys_text value) ?_
  refine .optional nofun rfl (fun comment _ => conveys_text comment) ?_
  exact .nil column

theorem conveys_index (index : Index) :
    Conveys index.toJson Index.shape.read (depth + 2) index := by
  refine Fills.conveys (by decide) ?_
  simp only [List.cons_append, List.nil_append]
  refine .present ((conveys_text index.id).map _) ?_
  refine .present ((conveys_text index.name).map _) ?_
  refine .present ((conveys_list fun column _ => conveys_text column).map _) ?_
  refine .present ((conveys_boolean index.isUnique).map _) ?_
  refine .optional nofun rfl (fun method _ => conveys_method method) ?_
  exact .nil index

theorem conveys_foreignKey (key : ForeignKey) :
    Conveys key.toJson ForeignKey.shape.read (depth + 1) key := by
  refine Fills.conveys (by decide) ?_
  simp only [List.cons_append, List.nil_append]
  refine .present ((conveys_text key.id).map _) ?_
  refine .present ((conveys_text key.name).map _) ?_
  refine .present ((conveys_text key.column).map _) ?_
  refine .present ((conveys_text key.referencedTable).map _) ?_
  refine .present ((conveys_text key.referencedColumn).map _) ?_
  refine .present ((conveys_action key.onDelete).map _) ?_
  refine .optional nofun rfl (fun action _ => conveys_action action) ?_
  exact .nil key

theorem conveys_table {table : Table} (portable : table.Portable) :
    Conveys table.toJson Table.shape.read (depth + 4) table := by
  refine Fills.conveys (by decide) ?_
  simp only [List.append_assoc, List.cons_append, List.nil_append]
  refine .present ((conveys_text table.id).map _) ?_
  refine .present ((conveys_text table.name).map _) ?_
  refine .optional nofun rfl (fun name _ => conveys_text name) ?_
  refine .present ((conveys_list fun column member =>
    conveys_column (portable column member)).map _) ?_
  refine .present ((conveys_list fun index _ => conveys_index index).map _) ?_
  refine .present ((conveys_list fun key _ => conveys_foreignKey key).map _) ?_
  refine .optional nofun rfl (fun comment _ => conveys_text comment) ?_
  exact .nil table

theorem conveys_junction (junction : JunctionTable) :
    Conveys junction.toJson JunctionTable.shape.read (depth + 1) junction := by
  refine Fills.conveys (by decide) ?_
  simp only [List.cons_append, List.nil_append]
  refine .present ((conveys_text junction.name).map _) ?_
  refine .present ((conveys_text junction.sourceColumn).map _) ?_
  refine .present ((conveys_text junction.targetColumn).map _) ?_
  exact .nil junction

theorem conveys_relationship (relationship : Relationship) :
    Conveys relationship.toJson Relationship.shape.read (depth + 2) relationship := by
  refine Fills.conveys (by decide) ?_
  simp only [List.cons_append, List.nil_append]
  refine .present ((conveys_text relationship.id).map _) ?_
  refine .present ((conveys_text relationship.name).map _) ?_
  refine .present ((conveys_text relationship.sourceTable).map _) ?_
  refine .present ((conveys_text relationship.sourceColumn).map _) ?_
  refine .present ((conveys_text relationship.targetTable).map _) ?_
  refine .present ((conveys_text relationship.targetColumn).map _) ?_
  refine .present ((conveys_cardinality relationship.cardinality).map _) ?_
  refine .present ((conveys_action relationship.onDelete).map _) ?_
  refine .optional nofun rfl (fun junction _ => conveys_junction junction) ?_
  exact .nil relationship

theorem conveys_parameter {parameter : Parameter} (portable : parameter.Portable) :
    Conveys parameter.toJson Parameter.shape.read (depth + 1) parameter := by
  refine Fills.conveys (by decide) ?_
  simp only [List.cons_append, List.nil_append]
  refine .present ((conveys_text parameter.name).map _) ?_
  refine .present ((conveys_columnType parameter.type).map _) ?_
  refine .present ((conveys_direction parameter.direction).map _) ?_
  refine .maybe (fun value (parameter : Parameter) => { parameter with default := value }) rfl rfl
    (fun value given => (conveys_default (portable value given)).map _) ?_
  exact .nil parameter

theorem conveys_routine {routine : Routine} (portable : routine.Portable) :
    Conveys routine.toJson Routine.shape.read (depth + 3) routine := by
  refine Fills.conveys (by decide) ?_
  simp only [List.append_assoc, List.cons_append, List.nil_append]
  refine .present ((conveys_text routine.id).map _) ?_
  refine .present ((conveys_text routine.name).map _) ?_
  refine .present ((conveys_list fun parameter member =>
    conveys_parameter (portable parameter member)).map _) ?_
  refine .optional nofun rfl (fun type _ => conveys_returnType type) ?_
  refine .present ((conveys_text routine.body).map _) ?_
  refine .optional nofun rfl (fun language _ => conveys_text language) ?_
  refine .optional nofun rfl (fun comment _ => conveys_text comment) ?_
  exact .nil routine

theorem conveys_schema {schema : Schema} (portable : schema.Portable) :
    Conveys schema.toJson Schema.shape.read (depth + 6) schema := by
  refine Fills.conveys (by decide) ?_
  simp only [List.cons_append, List.nil_append]
  refine .present ((conveys_text schema.id).map _) ?_
  refine .present ((conveys_text schema.name).map _) ?_
  refine .present ((conveys_text schema.description).map _) ?_
  refine .present ((conveys_dialect schema.dialect).map _) ?_
  refine .present ((conveys_list fun table member =>
    conveys_table (portable.tables table member)).map _) ?_
  refine .present ((conveys_list fun relationship _ => conveys_relationship relationship).map _) ?_
  refine .present ((conveys_list fun routine member =>
    conveys_routine (portable.routines routine member)).map _) ?_
  refine .present ((conveys_timestamp portable.createdAt).map _) ?_
  refine .present ((conveys_timestamp portable.updatedAt).map _) ?_
  exact .nil schema

theorem conveys_generationRequest (request : GenerationRequest) :
    Conveys request.toJson GenerationRequest.shape.read (depth + 1) request := by
  refine Fills.conveys (by decide) ?_
  simp only [List.cons_append, List.nil_append]
  refine .present ((conveys_text request.prompt).map _) ?_
  refine .present ((conveys_dialect request.dialect).map _) ?_
  refine .optional nofun rfl (fun context _ => conveys_text context) ?_
  exact .nil request

theorem conveys_refinementRequest {request : RefinementRequest}
    (portable : request.schema.Portable) :
    Conveys request.toJson RefinementRequest.shape.read (depth + 7) request := by
  refine Fills.conveys (by decide) ?_
  simp only [List.cons_append, List.nil_append]
  refine .present ((conveys_schema portable).map _) ?_
  refine .present ((conveys_text request.instruction).map _) ?_
  exact .nil request

theorem conveys_response {response : GenerationResponse} (portable : response.Portable) :
    Conveys response.toJson GenerationResponse.shape.read (depth + 7) response := by
  refine Fills.conveys (by decide) ?_
  simp only [List.append_assoc, List.cons_append, List.nil_append]
  refine .present ((conveys_boolean response.success).map _) ?_
  refine .optional nofun rfl (fun schema given => conveys_schema (portable schema given)) ?_
  refine .optional nofun rfl (fun reason _ => conveys_text reason) ?_
  exact .nil response

end Records

end DbSchema
