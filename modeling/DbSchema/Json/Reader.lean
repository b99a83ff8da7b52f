import DbSchema.Json.Node
import DbSchema.Reading.Found
import DbSchema.Schema.Supply

/-!
# Readers of JSON trees

Readers take typed values out of a tree in the order of the text, so that of two faults the one that
comes first in the text is reported. A reader knows how many more lists and objects may be opened
around the place it reads, and has a supply of fresh identifiers.
-/

namespace DbSchema.Json

/-- Why a text does not spell a value of the type that is read. -/
inductive ReadError where
  | fault (fault : Fault)
  | invalidType (found : Found) (expected : String)
  | invalidValue (number : Number) (expected : String)
  | missingField (name : String)
  | duplicateField (name : String)
  | unknownVariant (word : String) (choices : List String)
  | invalidLength (count : Nat) (expected : String)
  | noVariant (type : String)
  | refused (reason : String)
  deriving DecidableEq, Repr

/-- The text of the error. -/
def ReadError.message : ReadError → String
  | fault cause => cause.message
  | invalidType found expected =>
    "invalid type: " ++ found.words .data ++ ", expected " ++ expected
  | invalidValue value expected =>
    "invalid value: " ++ (Found.number value).words .data ++ ", expected " ++ expected
  | missingField name => "missing field \x60" ++ name ++ "\x60"
  | duplicateField name => "duplicate field \x60" ++ name ++ "\x60"
  | unknownVariant word choices =>
    "unknown variant \x60" ++ word ++ "\x60, expected " ++ Text.oneOf choices
  | invalidLength count expected =>
    "invalid length " ++ .ofList (naturalText count) ++ ", expected " ++ expected
  | noVariant type => "data did not match any variant of untagged enum " ++ type
  | refused reason => reason

/-- A computation of a reader: it is given how many lists and objects may still be opened, threads
the supply, and may fail. -/
abbrev Reader := ReaderT Nat (StateT Supply (Except ReadError))

namespace Reader

/-- How many lists and objects may be open around one place, plus one. -/
def depthLimit : Nat := 128

/-- Fails with a fault of the text. -/
def failWith {α : Type} (fault : Fault) : Reader α :=
  throw (.fault fault)

/-- Takes a value whose spelling may have a fault. -/
def spelled {α : Type} : Except Fault α → Reader α
  | .ok value => pure value
  | .error fault => failWith fault

/-- Reads inside a list or object that is opened here. -/
def entering {α : Type} (inside : Reader α) : Reader α := do
  let depth ← read
  if depth ≤ 1 then failWith .tooDeep else withReader (fun _ => depth - 1) inside

/-- An identifier that is in no other use. -/
def freshId : Reader String := fun _ supply => .ok supply.freshId

/-- Fails because a token starts a value of another type than expected. -/
def mismatchToken {α : Type} (expected : String) : Token → Reader α
  | .null => throw (.invalidType .null expected)
  | .boolean value => throw (.invalidType (.boolean value) expected)
  | .number value => do throw (.invalidType (.number (← spelled value)) expected)
  | .text quoted => do throw (.invalidType (.text (← spelled quoted.text)) expected)
  | .mark .openList => throw (.invalidType .list expected)
  | .mark .openObject => throw (.invalidType .object expected)
  | .broken fault _ => failWith fault
  | .mark _ | .stray => failWith .expectedValue

/-- Fails because a value is of another type than expected. -/
def mismatch {α : Type} (expected : String) : Node → Reader α
  | .leaf token => mismatchToken expected token
  | .missing fault => failWith fault
  | .list _ _ => throw (.invalidType .list expected)
  | .object _ _ => throw (.invalidType .object expected)

/-- Reads a text, which is described by `expected`. -/
def textAs (expected : String) : Node → Reader String
  | .leaf (.text quoted) => spelled quoted.text
  | node => mismatch expected node

/-- Reads a text. -/
def text : Node → Reader String :=
  textAs "a string"

/-- Reads a truth value. -/
def boolean : Node → Reader Bool
  | .leaf (.boolean value) => pure value
  | node => mismatch "a boolean" node

/-- Reads a natural number of 32 bits. -/
def word32 (node : Node) : Reader UInt32 := do
  let .leaf (.number value) := node | mismatch "u32" node
  match ← spelled value with
  | .integer whole =>
    if 0 ≤ whole && whole < 0x100000000 then pure (.ofNat whole.toNat)
    else throw (.invalidValue (.integer whole) "u32")
  | other => throw (.invalidType (.number other) "u32")

/-- Reads a value that may be null. -/
def optional {α : Type} (value : Node → Reader α) : Node → Reader (Option α)
  | .leaf .null => pure none
  | node => some <$> value node

/-- Comes to the end of a list whose items have all been read. -/
def endList : ListEnd → Reader Unit
  | .closed => pure ()
  | .closedAfterComma => failWith .trailingComma
  | .cutOff => failWith .endOfList
  | .noComma => failWith .expectedListComma

/-- Comes to the end of an object whose members have all been read. -/
def endObject : ObjectEnd → Reader Unit
  | .closed => pure ()
  | .closedAfterComma => failWith .trailingComma
  | .cutOff => failWith .endOfObject
  | .cutOffAfterComma => failWith .endOfValue
  | .noKey _ => failWith .keyNotText
  | .noComma => failWith .expectedObjectComma

/-- Reads a list of values. -/
def listOf {α : Type} (value : Node → Reader α) : Node → Reader (List α)
  | .list items ending => entering do
    let values ← items.mapM value
    endList ending
    pure values
  | node => mismatch "a sequence" node

/-- Looks up a word among choices. -/
def choose {α : Type} (choices : List (String × α)) (word : String) : Reader α :=
  match choices.lookup word with
  | some value => pure value
  | none => throw (.unknownVariant word (choices.map Prod.fst))

/-- Reads the null that goes with a choice in object form. -/
def unit : Node → Reader Unit
  | .leaf .null => pure ()
  | node => mismatch "unit" node

/-- Reads one of several choices: a text that names it, or an object with that name as its only key
and null behind it. -/
def choice {α : Type} (choices : List (String × α)) : Node → Reader α
  | .leaf (.text quoted) => do choose choices (← spelled quoted.text)
  | .leaf _ | .list _ _ => failWith .expectedValue
  | .missing fault => failWith fault
  | .object [] ending => entering do
    match ending with
    | .noKey token => mismatchToken "variant identifier" token
    | .cutOff => failWith .endOfValue
    | _ => failWith .expectedValue
  | .object ((key, value) :: others) ending => entering do
    let chosen ← choose choices (← spelled key.text)
    unit value
    match others, ending with
    | [], .closed => pure chosen
    | [], .cutOff => failWith .endOfObject
    | _, _ => failWith .expectedValue

mutual

/-- Reads a value of any type and forgets it. -/
def anything : Node → Reader Unit
  | .leaf (.null) | .leaf (.boolean _) => pure ()
  | .leaf (.number value) => discard (spelled value)
  | .leaf (.text quoted) => discard (spelled quoted.text)
  | .leaf (.broken fault _) => failWith fault
  | .leaf (.mark _) | .leaf .stray => failWith .expectedValue
  | .missing fault => failWith fault
  | .list items ending => entering do
    everyItem items
    endList ending
  | .object members ending => entering do
    everyMember members
    endObject ending

/-- Reads items of any type. -/
def everyItem : List Node → Reader Unit
  | [] => pure ()
  | item :: items => do
    anything item
    everyItem items

/-- Reads members of any type. -/
def everyMember : List (Quoted × Node) → Reader Unit
  | [] => pure ()
  | (key, value) :: members => do
    discard (spelled key.text)
    anything value
    everyMember members

end

end Reader

/-- The fault met when the end of a list is passed over. -/
def ListEnd.passFault : ListEnd → Option Fault
  | closed => none
  | closedAfterComma => some .expectedValue
  | cutOff => some .endOfList
  | noComma => some .expectedListComma

/-- The fault met when the end of an object is passed over. -/
def ObjectEnd.passFault : ObjectEnd → Option Fault
  | closed => none
  | closedAfterComma | noKey _ => some .keyNotText
  | cutOff | cutOffAfterComma => some .endOfObject
  | noComma => some .expectedObjectComma

mutual

/-- The fault met when a value is passed over: its spelling counts, but neither the size of its
numbers nor its surrogates nor its depth. -/
def Node.passFault : Node → Option Fault
  | .leaf (.null) | .leaf (.boolean _) | .leaf (.number _) => none
  | .leaf (.text quoted) => quoted.passFault
  | .leaf (.broken _ fault) => some fault
  | .leaf (.mark _) | .leaf .stray => some .expectedValue
  | .missing fault => some fault
  | .list items ending => (itemsPassFault items).or ending.passFault
  | .object members ending => (membersPassFault members).or ending.passFault

/-- The first fault met when items are passed over. -/
def itemsPassFault : List Node → Option Fault
  | [] => none
  | item :: items => item.passFault.or (itemsPassFault items)

/-- The first fault met when members are passed over. -/
def membersPassFault : List (Quoted × Node) → Option Fault
  | [] => none
  | (key, value) :: members => key.passFault.or (value.passFault.or (membersPassFault members))

end

/-- Passes over a value. -/
def Reader.pass (node : Node) : Reader Unit :=
  match node.passFault with
  | none => pure ()
  | some fault => failWith fault

/-- Reads a whole text, behind which nothing but blanks may follow. -/
def readText {α : Type} (value : Node → Reader α) (text : String) :
    StateT Supply (Except ReadError) α := do
  let document := Document.ofText text
  let result ← (value document.root).run Reader.depthLimit
  if document.hasTrailing then throw (.fault .trailingCharacters) else pure result

end DbSchema.Json
