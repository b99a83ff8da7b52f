import DbSchema.Schema.Reading
import DbSchema.Schema.Writing

/-!
# Exchanges with a schema generator

What is asked of a generator, a new schema for a prompt or a refinement of a schema that exists, and
what it answers. An answer comes down to a schema or to one reason why there is none.
-/

namespace DbSchema

open Json (Node Reader Shape optionalMember)

/-- Asks for a new schema. -/
structure GenerationRequest where
  prompt : String
  dialect : Dialect
  context : Option String
  deriving DecidableEq, Repr

/-- Asks for a changed schema. -/
structure RefinementRequest where
  schema : Schema
  instruction : String
  deriving DecidableEq, Repr

/-- The answer of a generator. -/
structure GenerationResponse where
  success : Bool
  schema : Option Schema
  error : Option String
  deriving DecidableEq, Repr

/-- Why a generator gave no schema: it could not be asked, it said why, it claimed success without a
schema, or it did not say why. -/
inductive GenerationFault where
  | unreachable (reason : String)
  | reported (reason : String)
  | missingSchema
  | unexplained
  deriving DecidableEq, Repr

/-- The reason in words. -/
def GenerationFault.reason : GenerationFault → String
  | unreachable reason => reason
  | reported reason => reason
  | missingSchema => "response reported success but carried no schema"
  | unexplained => "generator returned an unsuccessful response"

namespace GenerationResponse

/-- The answer that carries a schema. -/
def ok (schema : Schema) : GenerationResponse :=
  ⟨true, some schema, none⟩

/-- The answer that says why there is no schema. -/
def failed (reason : String) : GenerationResponse :=
  ⟨false, none, some reason⟩

/-- The schema of an answer that reports success, or the reason why there is none. A blank reason is
none. -/
def result (response : GenerationResponse) : Except GenerationFault Schema :=
  match response.success, response.schema with
  | true, some schema => .ok schema
  | true, none => .error .missingSchema
  | false, _ =>
    match response.error with
    | some reason => .error (if Text.isBlankText reason then .unexplained else .reported reason)
    | none => .error .unexplained

/-- The shape of an answer. -/
def shape : Shape GenerationResponse where
  title := "struct GenerationResponse"
  blank := ⟨false, none, none⟩
  fields := [
    .required "success" Reader.boolean fun success response => { response with success },
    .defaulted "schema" (Reader.optional Schema.shape.read) fun schema response =>
      { response with schema },
    .defaulted "error" (Reader.optional Reader.text) fun error response =>
      { response with error }]

/-- An answer as JSON. -/
def toJson (response : GenerationResponse) : Json :=
  .object <|
    [("success", .boolean response.success)]
    ++ optionalMember "schema" Schema.toJson response.schema
    ++ optionalMember "error" .text response.error

end GenerationResponse

namespace GenerationRequest

/-- The shape of a request for a new schema. -/
def shape : Shape GenerationRequest where
  title := "struct GenerationRequest"
  blank := ⟨"", .postgresql, none⟩
  fields := [
    .required "prompt" Reader.text fun prompt request => { request with prompt },
    .required "dialect" Dialect.read fun dialect request => { request with dialect },
    .defaulted "context" (Reader.optional Reader.text) fun context request =>
      { request with context }]

/-- A request for a new schema as JSON. -/
def toJson (request : GenerationRequest) : Json :=
  .object <|
    [("prompt", .text request.prompt), ("dialect", .text request.dialect.tag)]
    ++ optionalMember "context" .text request.context

end GenerationRequest

namespace RefinementRequest

/-- The shape of a request for a refinement. -/
def shape : Shape RefinementRequest where
  title := "struct RefinementRequest"
  blank := ⟨.empty "" "" .postgresql default, ""⟩
  fields := [
    .required "schema" Schema.shape.read fun schema request => { request with schema },
    .required "instruction" Reader.text fun instruction request =>
      { request with instruction }]

/-- A request for a refinement as JSON. -/
def toJson (request : RefinementRequest) : Json :=
  .object [("schema", request.schema.toJson), ("instruction", .text request.instruction)]

end RefinementRequest

end DbSchema
