import DbSchema.Proofs.Schema.Interchange
import DbSchema.Proofs.Workspace.Coherence

/-!
# What is written is read back

Every record of the wire format is read back from its JSON text as it was, in either written form
and whatever identifiers and time the reader is supplied with: nothing is filled in, since nothing
that needs it is left out. A workspace that is opened again from the artifact of its schema
therefore has the same schema, and without times in its texts the same texts.
-/

namespace DbSchema

open Json (ReadsBack)

/-- The empty workspace into which the schema of a text has been loaded. -/
def Workspace.reopened (options : Sql.Options) (now : Timestamp) (text : String)
    (supply : Supply) : Except Json.ReadError Workspace :=
  (Json.readText Schema.shape.read text supply).map fun given =>
    (Workspace.empty options).load now given.1

/-- What a text that is read as the answer of a generator comes down to. -/
def GenerationResponse.received (text : String) (supply : Supply) :
    Except Json.ReadError (Except GenerationFault Schema) :=
  (Json.readText shape.read text supply).map fun given => given.1.result

/-- Without a time in it, a script does not depend on when it was generated. -/
theorem compile_untimed {options : Sql.Options} (untimed : options.timestamp = false)
    (time now : Timestamp) (schema : Schema) :
    Sql.compile options time schema = Sql.compile options now schema := by
  simp [Sql.compile, Sql.scriptOf, untimed]

section Reading

variable {options : Sql.Options} {time : Timestamp} {workspace : Workspace} {schema : Schema}

theorem readsBack_schema (portable : schema.Portable) :
    ReadsBack schema.toJson Schema.shape.read schema :=
  (conveys_schema portable).readsBack (by decide : 0 + 6 < _)

theorem readsBack_response {response : GenerationResponse} (portable : response.Portable) :
    ReadsBack response.toJson GenerationResponse.shape.read response :=
  (conveys_response portable).readsBack (by decide : 0 + 7 < _)

/-- An answer that was received comes down to what it was sent for. -/
theorem received_toJson {response : GenerationResponse} (portable : response.Portable)
    (supply : Supply) :
    GenerationResponse.received response.toJson.compactText supply = .ok response.result
      ∧ GenerationResponse.received response.toJson.prettyText supply = .ok response.result := by
  obtain ⟨compact, pretty⟩ := readsBack_response portable supply
  constructor
  · rw [GenerationResponse.received, compact]
    rfl
  · rw [GenerationResponse.received, pretty]
    rfl

/-- A workspace is opened again from the artifact of its schema. -/
theorem reopened_artifact (reached : Reached options time workspace)
    (current : workspace.schema? = some schema) (portable : schema.Portable) :
    ∃ artifact, workspace.artifact .json = .ok artifact ∧ ∀ supply,
      Json.readText Schema.shape.read artifact.contents supply = .ok (schema, supply)
      ∧ (options.timestamp = false → ∀ now, ∃ again,
        Workspace.reopened options now artifact.contents supply = .ok again
          ∧ again.schema? = workspace.schema? ∧ again.outputs? = workspace.outputs?) := by
  have coherent := reached.coherent
  obtain ⟨compiled, held, rfl⟩ := Option.map_eq_some_iff.1 current
  refine ⟨.named compiled.schema.name .json compiled.schema.toJson.prettyText,
    by rw [Workspace.artifact, held], fun supply => ?_⟩
  have read := (readsBack_schema portable supply).2
  refine ⟨read, fun untimed now => ⟨(Workspace.empty options).load now compiled.schema, ?_, ?_, ?_⟩⟩
  · rw [Workspace.reopened, Artifact.named, read]
    rfl
  · rw [current]
    rfl
  · rw [coherent.compiled _ current, compile_untimed untimed time now]
    rfl

end Reading

/-- Every record of the wire format is read back from both of its written forms, if its numbers are
64 bit integers and its times have years of four digits. The artifact of a workspace is read back
as its schema, and opens a workspace with the same texts if these have no time in them. An answer
that was sent as a success comes down to its schema, and one that was sent with a reason to that
reason. -/
theorem wire_format_reads_back :
    (∀ schema : Schema, schema.Portable → ReadsBack schema.toJson Schema.shape.read schema)
      ∧ (∀ table : Table, table.Portable → ReadsBack table.toJson Table.shape.read table)
      ∧ (∀ column : Column, column.Portable → ReadsBack column.toJson Column.shape.read column)
      ∧ (∀ index : Index, ReadsBack index.toJson Index.shape.read index)
      ∧ (∀ key : ForeignKey, ReadsBack key.toJson ForeignKey.shape.read key)
      ∧ (∀ relationship : Relationship,
        ReadsBack relationship.toJson Relationship.shape.read relationship)
      ∧ (∀ routine : Routine, routine.Portable →
        ReadsBack routine.toJson Routine.shape.read routine)
      ∧ (∀ request : GenerationRequest,
        ReadsBack request.toJson GenerationRequest.shape.read request)
      ∧ (∀ request : RefinementRequest, request.schema.Portable →
        ReadsBack request.toJson RefinementRequest.shape.read request)
      ∧ (∀ response : GenerationResponse, response.Portable →
        ReadsBack response.toJson GenerationResponse.shape.read response)
      ∧ (∀ options time workspace schema, Reached options time workspace →
        workspace.schema? = some schema → schema.Portable →
        ∃ artifact, workspace.artifact .json = .ok artifact ∧ ∀ supply,
          Json.readText Schema.shape.read artifact.contents supply = .ok (schema, supply)
          ∧ (options.timestamp = false → ∀ now, ∃ again,
            Workspace.reopened options now artifact.contents supply = .ok again
              ∧ again.schema? = workspace.schema? ∧ again.outputs? = workspace.outputs?))
      ∧ (∀ (schema : Schema) (supply : Supply), schema.Portable →
        let sent := (GenerationResponse.ok schema).toJson
        GenerationResponse.received sent.compactText supply = .ok (.ok schema)
          ∧ GenerationResponse.received sent.prettyText supply = .ok (.ok schema))
      ∧ ∀ (reason : String) (supply : Supply), Text.isBlankText reason = false →
        let sent := (GenerationResponse.failed reason).toJson
        GenerationResponse.received sent.compactText supply = .ok (.error (.reported reason))
          ∧ GenerationResponse.received sent.prettyText supply =
            .ok (.error (.reported reason)) := by
  refine ⟨fun _ => readsBack_schema, ?_, ?_, ?_, ?_, ?_, ?_, ?_, ?_, fun _ => readsBack_response,
    fun _ _ _ _ => reopened_artifact, ?_, ?_⟩
  · exact fun _ portable => (conveys_table portable).readsBack (by decide : 0 + 4 < _)
  · exact fun _ portable => (conveys_column portable).readsBack (by decide : 0 + 2 < _)
  · exact fun index => (conveys_index index).readsBack (by decide : 0 + 2 < _)
  · exact fun key => (conveys_foreignKey key).readsBack (by decide : 0 + 1 < _)
  · exact fun relationship =>
      (conveys_relationship relationship).readsBack (by decide : 0 + 2 < _)
  · exact fun _ portable => (conveys_routine portable).readsBack (by decide : 0 + 3 < _)
  · exact fun request => (conveys_generationRequest request).readsBack (by decide : 0 + 1 < _)
  · exact fun _ portable =>
      (conveys_refinementRequest portable).readsBack (by decide : 0 + 7 < _)
  · intro schema supply portable
    have carried : (GenerationResponse.ok schema).Portable := by
      rintro _ ⟨rfl⟩
      exact portable
    exact received_toJson carried supply
  · intro reason supply worded
    have empty : (GenerationResponse.failed reason).Portable := nofun
    have result : (GenerationResponse.failed reason).result = .error (.reported reason) := by
      simp [GenerationResponse.failed, GenerationResponse.result, worded]
    rw [← result]
    exact received_toJson empty supply

/-- A schema with an explicit null, the least and the greatest number and a text full of escapes for
defaults, which was updated in a leap second of the year 0, is read back on its own, from an
artifact, and from the answer of a generator. -/
theorem wire_format_reads_back_extremeSchema :
    let time : Timestamp := ⟨2024, 1, 28, 12, 0, 0, 0⟩
    let leap : Timestamp := ⟨0, 11, 30, 23, 59, 60, 999999999⟩
    let column (value : DefaultValue) : Column :=
      { Column.ofType "3" "\\u0041" .enum with default := some value, enumValues := [""] }
    let columns := [column .null, column (.number (.integer (-0x8000000000000000))),
      column (.number (.integer 0xffffffffffffffff)), column (.text "\"\\\x00\n😀")]
    let routine := (Routine.ofBody "4" "touch" "").addParameter
      ⟨"at", .timestamp, .inout, some .null⟩
    let schema : Schema :=
      { Schema.empty "1" "shop" .mysql time with
        tables := [{ Table.empty "2" "cart" with columns }],
        routines := [routine], updatedAt := leap }
    let options : Sql.Options := ⟨false, none⟩
    let workspace := (Workspace.empty options).load time schema
    ReadsBack schema.toJson Schema.shape.read schema
      ∧ ReadsBack routine.toJson Routine.shape.read routine
      ∧ ReadsBack (RefinementRequest.mk schema "").toJson RefinementRequest.shape.read ⟨schema, ""⟩
      ∧ (∃ artifact, workspace.artifact .json = .ok artifact ∧ ∀ supply, ∃ again,
        Workspace.reopened options leap artifact.contents supply = .ok again
          ∧ again.outputs? = workspace.outputs?)
      ∧ (∀ supply, GenerationResponse.received (GenerationResponse.ok schema).toJson.compactText
        supply = .ok (.ok schema))
      ∧ ∀ supply, GenerationResponse.received (GenerationResponse.failed " no").toJson.prettyText
        supply = .ok (.error (.reported " no")) := by
  intro time leap column columns routine schema options workspace
  obtain ⟨schemas, -, -, -, -, -, routines, -, refinements, -, artifacts, successes, failures⟩ :=
    wire_format_reads_back
  have portableColumn {value : DefaultValue} (portable : value.Portable) :
      (column value).Portable := by
    rintro _ ⟨rfl⟩
    exact portable
  have portableTable (table : Table) (member : table ∈ schema.tables) : table.Portable := by
    obtain rfl := List.mem_singleton.1 member
    intro column member
    simp only [columns, List.mem_cons, List.not_mem_nil, or_false] at member
    rcases member with rfl | rfl | rfl | rfl
    · exact portableColumn trivial
    · exact portableColumn ⟨Int.le_refl _, by decide⟩
    · exact portableColumn ⟨by decide, by decide⟩
    · exact portableColumn trivial
  have portableRoutine : routine.Portable := by
    intro parameter member
    obtain rfl := List.mem_singleton.1 member
    rintro _ ⟨rfl⟩
    trivial
  have portable : schema.Portable := by
    refine ⟨portableTable, ?_, ⟨by decide, by decide⟩, ⟨by decide, by decide⟩⟩
    intro other member
    obtain rfl := List.mem_singleton.1 member
    exact portableRoutine
  have loaded : (Action.load schema).outcome time (.empty options) = (.ok (), workspace) := rfl
  have reached : Reached options time workspace := .changed (.start time) loaded
  refine ⟨schemas schema portable, routines routine portableRoutine,
    refinements ⟨schema, ""⟩ portable, ?_, fun supply => (successes schema supply portable).1,
    fun supply => (failures " no" supply (by decide)).2⟩
  obtain ⟨artifact, written, read⟩ := artifacts options time workspace schema reached rfl portable
  refine ⟨artifact, written, fun supply => ?_⟩
  obtain ⟨again, opened, -, same⟩ := (read supply).2 rfl leap
  exact ⟨again, opened, same⟩

end DbSchema
