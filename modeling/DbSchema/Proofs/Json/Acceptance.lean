import DbSchema.Json.Record
import Mathlib.Data.List.Nodup

/-!
# Records that are accepted

What is known of a record that a reader accepts, whatever else its text holds. A field is read at
most once, and what its value puts into the record stays there as long as the other fields leave it
alone. `Shape.Settles.holds_of_read` says so for both forms of a record.
-/

namespace DbSchema.Json

variable {α β : Type}

/-- Whether a reader gives a value at some depth and with some supply. -/
def MayGive (reader : Reader α) (value : α) : Prop :=
  ∃ room supply after, reader room supply = .ok (value, after)

section Giving

variable {reader : Reader α} {value other : α} {result : β}

theorem mayGive_pure (given : MayGive (pure value) other) : other = value := by
  obtain ⟨room, supply, after, run⟩ := given
  exact (congrArg Prod.fst (Except.ok.inj run)).symm

theorem not_mayGive_throw (error : ReadError) : ¬MayGive (throw error) value := by
  rintro ⟨room, supply, after, run⟩
  exact absurd (run : Except.error error = .ok (value, after)) nofun

/-- What two readers give one after the other comes from what the first of them gives. -/
theorem MayGive.of_bind {next : α → Reader β} (given : MayGive (reader >>= next) result) :
    ∃ value, MayGive reader value ∧ MayGive (next value) result := by
  obtain ⟨room, supply, after, run⟩ := given
  have parts : (reader >>= next) room supply =
      (reader room supply).bind fun given => next given.1 room given.2 := rfl
  rw [parts] at run
  cases first : reader room supply with
  | error error =>
      rw [first] at run
      exact absurd (run : Except.error error = .ok (result, after)) nofun
  | ok given =>
      rw [first] at run
      exact ⟨given.1, ⟨room, supply, given.2, first⟩, room, given.2, after, run⟩

/-- A changed value comes from the value before the change. -/
theorem MayGive.of_map {change : α → β} (given : MayGive (change <$> reader) result) :
    ∃ value, MayGive reader value ∧ result = change value := by
  rw [map_eq_pure_bind] at given
  obtain ⟨value, first, last⟩ := given.of_bind
  exact ⟨value, first, mayGive_pure last⟩

/-- Inside a list or object the same values are given. -/
theorem MayGive.of_entering (given : MayGive (Reader.entering reader) value) :
    MayGive reader value := by
  obtain ⟨room, supply, after, run⟩ := given
  have parts : Reader.entering reader room supply =
      (if room ≤ 1 then Reader.failWith .tooDeep else withReader (fun _ => room - 1) reader)
        room supply := rfl
  rw [parts] at run
  split at run
  · exact absurd ⟨room, supply, after, run⟩ (not_mayGive_throw _)
  · exact ⟨room - 1, supply, after, run⟩

/-- What is accepted has no fault in its spelling. -/
theorem MayGive.of_spelled {spelling : Except Fault α}
    (given : MayGive (Reader.spelled spelling) value) : spelling = .ok value := by
  cases spelling with
  | ok spelled => rw [mayGive_pure given]
  | error fault => exact absurd given (not_mayGive_throw _)

end Giving

section Records

variable {property : α → Prop} {name : String} {value : Node} {shape : Shape α} {field : Field α}

/-- Whether a field keeps a property of the record, when it is read and when it is filled. -/
structure Field.Keeps (field : Field α) (property : α → Prop) : Prop where
  read : ∀ node change record, MayGive (field.read node) change → property record →
    property (change record)
  fill : ∀ value, field.whenAbsent = .fill value → ∀ supply record, property record →
    property (value supply record).1

/-- Whether the value of a field brings about a property of the record, which all the other fields
keep. -/
structure Shape.Settles (shape : Shape α) (field : Field α) (value : Node) (property : α → Prop) :
    Prop where
  distinct : (shape.fields.map Field.name).Nodup
  isField : field ∈ shape.fields
  sets : ∀ change record, MayGive (field.read value) change → property (change record)
  keeps : ∀ other ∈ shape.fields, other.name ≠ field.name → other.Keeps property

/-- Whether a tree holds a value for a named field of a record, in either form of the record. -/
def Shape.Holds (shape : Shape α) (name : String) (value : Node) : Node → Prop
  | .object members _ => ∃ key, key.text = .ok name ∧ (key, value) ∈ members
  | .list items _ => ∃ field, field.name = name ∧ (field, value) ∈ shape.fields.zip items
  | _ => False

section Fields

variable {read : Node → Reader β} {put : β → α → α}

/-- What putting any value into the record keeps, reading the field keeps. -/
theorem MayGive.keeps_put (kept : ∀ value record, property record → property (put value record))
    {reader : Reader β} {change : α → α} (given : MayGive (put <$> reader) change) {record : α}
    (holds : property record) : property (change record) := by
  obtain ⟨value, -, rfl⟩ := given.of_map
  exact kept value record holds

theorem keeps_required (kept : ∀ value record, property record → property (put value record)) :
    (Field.required name read put).Keeps property where
  read _ _ _ given holds := given.keeps_put kept holds
  fill _ absent := nomatch absent

theorem keeps_defaulted (kept : ∀ value record, property record → property (put value record)) :
    (Field.defaulted name read put).Keeps property where
  read _ _ _ given holds := given.keeps_put kept holds
  fill _ absent := nomatch absent

theorem keeps_filled {fill : Supply → β × Supply}
    (kept : ∀ value record, property record → property (put value record)) :
    (Field.filled name read put fill).Keeps property where
  read _ _ _ given holds := given.keeps_put kept holds
  fill _ absent supply record holds := by
    obtain rfl := WhenAbsent.fill.inj absent
    exact kept (fill supply).1 record holds

end Fields

/-- The field of a name is the only one. -/
theorem Shape.Settles.unique (settles : shape.Settles field value property) {other : Field α}
    (isField : other ∈ shape.fields) (same : other.name = field.name) : other = field :=
  List.inj_on_of_nodup_map settles.distinct isField settles.isField same

/-- A field that is absent keeps what it keeps when it is filled. -/
theorem Field.Keeps.settle {absence : ReadError} {record settled : α}
    (keeps : field.Keeps property) (holds : property record)
    (given : MayGive (Shape.settle absence record field) settled) : property settled := by
  unfold Shape.settle at given
  split at given
  case h_1 => exact absurd given (not_mayGive_throw _)
  case h_2 =>
    rw [mayGive_pure given]
    exact holds
  case h_3 fill absent =>
    obtain ⟨room, supply, after, run⟩ := given
    have filled : (fill supply record).1 = settled := congrArg Prod.fst (Except.ok.inj run)
    exact filled ▸ keeps.fill fill absent supply record holds

/-- Fields that are absent keep what each of them keeps. -/
theorem holds_of_foldlM_settle (absent : List (Field α)) {record settled : α}
    (keeps : ∀ field ∈ absent, field.Keeps property) (holds : property record)
    (given : MayGive (absent.foldlM (fun record field =>
      Shape.settle (.missingField field.name) record field) record) settled) :
    property settled := by
  induction absent generalizing record with
  | nil =>
      rw [mayGive_pure given]
      exact holds
  | cons field absent inductionHypothesis =>
      rw [List.foldlM_cons] at given
      obtain ⟨next, first, given⟩ := given.of_bind
      exact inductionHypothesis (fun other member => keeps other (List.mem_cons_of_mem _ member))
        ((keeps field List.mem_cons_self).settle holds first) given

section Members

variable {members : List (Quoted × Node)} {ending : ObjectEnd} {seen names : List String}
  {record result : α}

/-- What can happen to the first member of an object: it is passed over, or it is the value of a
field that has not been seen yet. -/
theorem MayGive.of_readMembers_cons {key : Quoted} {node : Node}
    (given : MayGive (shape.readMembers ending seen record ((key, node) :: members))
      (names, result)) :
    ∃ name, key.text = .ok name
      ∧ (name ∉ shape.fields.map Field.name
          ∧ MayGive (shape.readMembers ending seen record members) (names, result)
        ∨ name ∉ seen ∧ ∃ field ∈ shape.fields, field.name = name
          ∧ ∃ change, MayGive (field.read node) change
          ∧ MayGive (shape.readMembers ending (name :: seen) (change record) members)
              (names, result)) := by
  obtain ⟨name, spelled, given⟩ := given.of_bind
  refine ⟨name, spelled.of_spelled, ?_⟩
  split at given
  case h_1 unknown =>
    obtain ⟨-, -, given⟩ := given.of_bind
    refine .inl ⟨fun known => ?_, given⟩
    obtain ⟨field, member, fieldName⟩ := List.mem_map.1 known
    exact List.find?_eq_none.1 unknown field member (beq_iff_eq.2 fieldName)
  case h_2 field found =>
    have fieldName : field.name = name := by simpa using List.find?_some found
    split at given
    case isTrue => exact absurd given (not_mayGive_throw _)
    case isFalse unseen =>
      obtain ⟨change, read, given⟩ := given.of_bind
      exact .inr ⟨by simpa using unseen, field, List.mem_of_find?_eq_some found, fieldName, change,
        read, given⟩

/-- Once the field has been read, the property holds to the end of the object. -/
theorem Shape.Settles.readMembers_keeps (settles : shape.Settles field value property)
    (isSeen : field.name ∈ seen) (holds : property record)
    (given : MayGive (shape.readMembers ending seen record members) (names, result)) :
    field.name ∈ names ∧ property result := by
  induction members generalizing seen record with
  | nil =>
      obtain ⟨-, -, given⟩ := given.of_bind
      obtain ⟨rfl, rfl⟩ := Prod.mk.inj (mayGive_pure given)
      exact ⟨isSeen, holds⟩
  | cons member members inductionHypothesis =>
      obtain ⟨key, node⟩ := member
      obtain ⟨-, -, ⟨-, given⟩ | ⟨unseen, other, isField, rfl, change, read, given⟩⟩ :=
        given.of_readMembers_cons
      · exact inductionHypothesis isSeen holds given
      · -- A field that is not seen yet is another one, since this one would be refused.
        have different : other.name ≠ field.name := fun same => unseen (same ▸ isSeen)
        exact inductionHypothesis (List.mem_cons_of_mem _ isSeen)
          ((settles.keeps other isField different).read node change record read holds) given

/-- An object with a member for the field is read into a record with the property. -/
theorem Shape.Settles.readMembers_sets (settles : shape.Settles field value property)
    {key : Quoted} (isKey : key.text = .ok field.name) (isMember : (key, value) ∈ members)
    (given : MayGive (shape.readMembers ending seen record members) (names, result)) :
    field.name ∈ names ∧ property result := by
  induction members generalizing seen record with
  | nil => exact absurd isMember List.not_mem_nil
  | cons member members inductionHypothesis =>
      obtain ⟨first, node⟩ := member
      obtain ⟨keyName, spelled, step⟩ := given.of_readMembers_cons
      rcases List.mem_cons.1 isMember with here | later
      · obtain ⟨rfl, rfl⟩ := Prod.mk.inj here
        obtain rfl := Except.ok.inj (isKey.symm.trans spelled)
        obtain ⟨unknown, -⟩ | ⟨-, other, isField, same, change, read, given⟩ := step
        · exact absurd (List.mem_map_of_mem settles.isField) unknown
        · obtain rfl := settles.unique isField same
          exact settles.readMembers_keeps List.mem_cons_self (settles.sets change record read) given
      · obtain ⟨-, given⟩ | ⟨-, other, -, -, change, -, given⟩ := step
        · exact inductionHypothesis later given
        · exact inductionHypothesis later given

end Members

section Items

variable {fields : List (Field α)} {items : List Node} {ending : ListEnd} {count : Nat}
  {record result : α}

/-- Fields that keep the property keep it to the end of the list. -/
theorem holds_of_readItems (keeps : ∀ field ∈ fields, field.Keeps property)
    (holds : property record)
    (given : MayGive (shape.readItems ending count record fields items) result) :
    property result := by
  induction fields generalizing count record items with
  | nil =>
      cases items with
      | nil =>
          obtain ⟨-, -, given⟩ := given.of_bind
          rw [mayGive_pure given]
          exact holds
      | cons item items => exact absurd given (not_mayGive_throw _)
  | cons field fields inductionHypothesis =>
      have keepsOthers : ∀ other ∈ fields, other.Keeps property :=
        fun other member => keeps other (List.mem_cons_of_mem _ member)
      have keepsHere := keeps field List.mem_cons_self
      cases items with
      | nil =>
          obtain ⟨-, -, given⟩ := given.of_bind
          obtain ⟨settled, first, given⟩ := given.of_bind
          exact inductionHypothesis keepsOthers (keepsHere.settle holds first) given
      | cons item items =>
          obtain ⟨change, read, given⟩ := given.of_bind
          exact inductionHypothesis keepsOthers
            (keepsHere.read item change record read holds) given

/-- A list with an item for the field is read into a record with the property. -/
theorem Shape.Settles.readItems_sets (settles : shape.Settles field value property)
    (areFields : ∀ other ∈ fields, other ∈ shape.fields)
    (distinct : (fields.map Field.name).Nodup) (isItem : (field, value) ∈ fields.zip items)
    (given : MayGive (shape.readItems ending count record fields items) result) :
    property result := by
  induction fields generalizing count record items with
  | nil => simp at isItem
  | cons first fields inductionHypothesis =>
      have areOthers : ∀ other ∈ fields, other ∈ shape.fields :=
        fun other member => areFields other (List.mem_cons_of_mem _ member)
      obtain ⟨fresh, distinctOthers⟩ := List.nodup_cons.1 distinct
      cases items with
      | nil => simp at isItem
      | cons item items =>
          obtain ⟨change, read, others⟩ := given.of_bind
          rcases List.mem_cons.1 isItem with here | later
          · obtain ⟨rfl, rfl⟩ := Prod.mk.inj here
            have holds := settles.sets change record read
            refine holds_of_readItems (fun other member => ?_) holds others
            refine settles.keeps other (areOthers other member) fun same => fresh ?_
            rw [← same]
            exact List.mem_map_of_mem member
          · exact inductionHypothesis areOthers distinctOthers later others

end Items

/-- A record that is read has what the value of a field brings about, if its tree holds that value
and the other fields leave it alone. -/
theorem Shape.Settles.holds_of_read (settles : shape.Settles field value property) {node : Node}
    {record : α} (holds : shape.Holds field.name value node)
    (given : MayGive (shape.read node) record) : property record := by
  unfold Shape.Holds at holds
  split at holds
  case h_1 members ending =>
    obtain ⟨key, isKey, isMember⟩ := holds
    obtain ⟨⟨names, before⟩, first, given⟩ := given.of_entering.of_bind
    obtain ⟨isSeen, holds⟩ := settles.readMembers_sets isKey isMember first
    refine holds_of_foldlM_settle _ (fun other absent => ?_) holds given
    obtain ⟨isField, unseen⟩ := List.mem_filter.1 absent
    refine settles.keeps other isField fun same => ?_
    simp [same, isSeen] at unseen
  case h_2 items ending =>
    obtain ⟨other, same, isItem⟩ := holds
    obtain rfl := settles.unique (List.of_mem_zip isItem).1 same
    exact settles.readItems_sets (fun _ member => member) settles.distinct isItem
      given.of_entering
  case h_3 => exact holds.elim

end Records

end DbSchema.Json
