import DbSchema.Json.Reader

/-!
# Readers of records

A record is described by its fields. Its text is either an object, whose members may come in any
order and whose unknown members are passed over, or a list with the fields in declaration order.
-/

namespace DbSchema.Json

/-- What a reader does about a field that is not in the text: report it, leave the blank value, or
fill it from the supply. -/
inductive WhenAbsent (α : Type) where
  | report
  | leave
  | fill (value : Supply → α → α × Supply)

/-- A field of a record: its name, how its value is read, as a change of the record, and what
happens when it is absent. -/
structure Field (α : Type) where
  name : String
  read : Node → Reader (α → α)
  whenAbsent : WhenAbsent α

namespace Field

/-- A field that has to be there. -/
def required {α β : Type} (name : String) (value : Node → Reader β) (put : β → α → α) : Field α :=
  ⟨name, fun node => put <$> value node, .report⟩

/-- A field that keeps its blank value when it is absent. -/
def defaulted {α β : Type} (name : String) (value : Node → Reader β) (put : β → α → α) : Field α :=
  ⟨name, fun node => put <$> value node, .leave⟩

/-- A field that is filled from the supply when it is absent. -/
def filled {α β : Type} (name : String) (value : Node → Reader β) (put : β → α → α)
    (fill : Supply → β × Supply) : Field α :=
  ⟨name, fun node => put <$> value node,
    .fill fun supply record => (put (fill supply).1 record, (fill supply).2)⟩

end Field

/-- The description of a record type: the words for it in messages, a blank record, and its fields
in declaration order. -/
structure Shape (α : Type) where
  title : String
  blank : α
  fields : List (Field α)

namespace Shape

variable {α : Type}

/-- The words for a record in positional form. -/
def positionalTitle (shape : Shape α) : String :=
  shape.title ++ " with " ++ .ofList (naturalText shape.fields.length) ++ " elements"

/-- Settles a field that is absent; `absence` is the error if it has to be there. -/
def settle (absence : ReadError) (record : α) (field : Field α) : Reader α :=
  match field.whenAbsent with
  | .report => throw absence
  | .leave => pure record
  | .fill value => fun _ supply => .ok (value supply record)

/-- Reads the members of an object into a record. `seen` names the fields that have been read. -/
def readMembers (shape : Shape α) (ending : ObjectEnd) (seen : List String) (record : α) :
    List (Quoted × Node) → Reader (List String × α)
  | [] => do
    Reader.endObject ending
    pure (seen, record)
  | (key, value) :: members => do
    let name ← Reader.spelled key.text
    match shape.fields.find? fun field => field.name == name with
    | none =>
      Reader.pass value
      readMembers shape ending seen record members
    | some field =>
      if seen.contains name then throw (.duplicateField name)
      else
        let change ← field.read value
        readMembers shape ending (name :: seen) (change record) members

/-- Comes to the end of a list all of whose fields have been read. -/
def endPositional : ListEnd → Reader Unit
  | .closed => pure ()
  | .closedAfterComma => Reader.failWith .trailingComma
  | .cutOff => Reader.failWith .endOfList
  | .noComma => Reader.failWith .trailingCharacters

/-- Reads the items of a list into the fields of a record; `count` fields came before. -/
def readItems (shape : Shape α) (ending : ListEnd) :
    (count : Nat) → (record : α) → List (Field α) → List Node → Reader α
  | _, record, [], [] => do
    endPositional ending
    pure record
  | _, _, [], _ :: _ => Reader.failWith .trailingCharacters
  | count, record, field :: fields, item :: items => do
    let change ← field.read item
    readItems shape ending (count + 1) (change record) fields items
  | count, record, field :: fields, [] => do
    Reader.endList ending
    let settled ← settle (.invalidLength count shape.positionalTitle) record field
    readItems shape ending (count + 1) settled fields []

/-- Reads a record in either form. -/
def read (shape : Shape α) : Node → Reader α
  | .object members ending => Reader.entering do
    let (seen, record) ← readMembers shape ending [] shape.blank members
    let absent := shape.fields.filter fun field => !seen.contains field.name
    absent.foldlM (fun record field => settle (.missingField field.name) record field) record
  | .list items ending =>
    Reader.entering (readItems shape ending 0 shape.blank shape.fields items)
  | node => Reader.mismatch shape.title node

end Shape

end DbSchema.Json
