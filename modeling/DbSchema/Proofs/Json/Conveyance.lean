import DbSchema.Json.Record
import DbSchema.Proofs.Json.Structure

/-!
# Values that are conveyed

A value conveys another one to a reader when the reader gets that other value from its tree, and all
its numbers are exact. Conveyance is closed under the ways in which readers are built: lists,
choices, values that may be null, and records. For a record, `Fills` follows its fields and the
written members side by side, since a field is either written or keeps its blank value. What is
conveyed at all can then be read back from both written forms.
-/

namespace DbSchema.Json

variable {α β : Type}

/-- Whether a reader gives a value wherever more than `depth` lists and objects may be opened. The
supply is not touched. -/
def Gives (reader : Reader α) (depth : Nat) (value : α) : Prop :=
  ∀ room, depth < room → ∀ supply, reader room supply = .ok (value, supply)

/-- Whether a value conveys `value` to a reader that opens at most `depth` lists and objects. -/
structure Conveys (json : Json) (reader : Node → Reader α) (depth : Nat) (value : α) : Prop where
  exact : Exact json
  gives : Gives (reader (nodeOf json)) depth value

section Giving

variable {reader : Reader α} {depth : Nat} {value : α}

theorem gives_pure (depth : Nat) (value : α) : Gives (pure value) depth value :=
  fun _ _ _ => rfl

/-- What a reader gives is passed on to what follows. -/
theorem Gives.bind {next : α → Reader β} {result : β} (first : Gives reader depth value)
    (behind : Gives (next value) depth result) : Gives (reader >>= next) depth result := by
  intro room enough supply
  have run : (reader >>= next) room supply =
      (reader room supply).bind fun given => next given.1 room given.2 := rfl
  rw [run, first room enough supply]
  exact behind room enough supply

/-- What a reader gives can be changed. -/
theorem Gives.map (change : α → β) (given : Gives reader depth value) :
    Gives (change <$> reader) depth (change value) := by
  intro room enough supply
  have run : (change <$> reader) room supply =
      (reader room supply).map fun given => (change given.1, given.2) := rfl
  rw [run, given room enough supply]
  rfl

/-- Inside a list or object there is room for one less. -/
theorem Gives.entering (given : Gives reader depth value) :
    Gives (Reader.entering reader) (depth + 1) value := by
  intro room enough supply
  have run : Reader.entering reader room supply =
      (if room ≤ 1 then Reader.failWith .tooDeep else withReader (fun _ => room - 1) reader)
        room supply := rfl
  rw [run, if_neg (by omega)]
  exact given (room - 1) (by omega) supply

/-- Readers of items give the items. -/
theorem gives_mapM {read : Node → Reader α} {write : α → Json} (items : List α)
    (given : ∀ item ∈ items, Gives (read (nodeOf (write item))) depth item) :
    Gives ((itemNodes (items.map write)).mapM read) depth items := by
  induction items with
  | nil => exact gives_pure depth []
  | cons item items inductionHypothesis =>
      rw [List.map_cons, itemNodes, List.mapM_cons]
      refine (given item List.mem_cons_self).bind (Gives.bind ?_ (gives_pure depth _))
      exact inductionHypothesis fun other member => given other (List.mem_cons_of_mem item member)

end Giving

section Conveying

variable {json : Json} {read : Node → Reader α} {depth : Nat} {value : α}

theorem conveys_text (value : String) : Conveys (.text value) Reader.text depth value :=
  ⟨trivial, gives_pure depth value⟩

theorem conveys_boolean (value : Bool) : Conveys (.boolean value) Reader.boolean depth value :=
  ⟨trivial, gives_pure depth value⟩

/-- A natural number of 32 bits is exact and within the bounds of its reader. -/
theorem conveys_word32 (value : UInt32) :
    Conveys (.number (.integer (Int.ofNat value.toNat))) Reader.word32 depth value := by
  have small : value.toNat < 0x100000000 := value.toNat_lt
  constructor
  · rw [Exact, IsExact, Int.ofNat_eq_natCast]
    omega
  · have within : (0 ≤ Int.ofNat value.toNat && Int.ofNat value.toNat < 0x100000000) = true := by
      rw [Int.ofNat_eq_natCast, Bool.and_eq_true, decide_eq_true_eq, decide_eq_true_eq]
      omega
    have same : UInt32.ofNat (Int.ofNat value.toNat).toNat = value := UInt32.ofNat_toNat
    have read : Reader.word32 (nodeOf (.number (.integer (Int.ofNat value.toNat)))) =
        pure value := by
      rw [nodeOf, Reader.word32, Reader.spelled, pure_bind]
      simp only [within, ↓reduceIte, same]
    rw [read]
    exact gives_pure depth value

/-- The tag of a choice conveys what it is looked up as. -/
theorem conveys_choice {choices : List (String × α)} {tag : String}
    (named : choices.lookup tag = some value) :
    Conveys (.text tag) (Reader.choice choices) depth value := by
  refine ⟨trivial, ?_⟩
  have chosen : Gives (Reader.choose choices tag) depth value := by
    rw [Reader.choose, named]
    exact gives_pure depth value
  exact (gives_pure depth tag).bind chosen

/-- A value that is there is conveyed as such, unless it is null. -/
theorem Conveys.optional (conveys : Conveys json read depth value) (present : json ≠ .null) :
    Conveys json (Reader.optional read) depth (some value) := by
  refine ⟨conveys.exact, ?_⟩
  have same : Reader.optional read (nodeOf json) = some <$> read (nodeOf json) := by
    cases json with
    | null => exact absurd rfl present
    | boolean | number | text | list | object => rfl
  rw [same]
  exact conveys.gives.map some

/-- What is conveyed may be changed behind its reader. -/
theorem Conveys.map (change : α → β) (conveys : Conveys json read depth value) :
    Conveys json (fun node => change <$> read node) depth (change value) :=
  ⟨conveys.exact, conveys.gives.map change⟩

/-- Items are exact when each of them is. -/
theorem itemsExact_map {write : α → Json} (items : List α)
    (exact : ∀ item ∈ items, Exact (write item)) : ItemsExact (items.map write) := by
  induction items with
  | nil => trivial
  | cons item items inductionHypothesis =>
      exact ⟨exact item List.mem_cons_self, inductionHypothesis fun other member =>
        exact other (List.mem_cons_of_mem item member)⟩

/-- A list is conveyed when each of its items is. -/
theorem conveys_list {write : α → Json} {items : List α}
    (conveys : ∀ item ∈ items, Conveys (write item) read depth item) :
    Conveys (.list (items.map write)) (Reader.listOf read) (depth + 1) items := by
  refine ⟨itemsExact_map items fun item member => (conveys item member).exact, ?_⟩
  refine Gives.entering ((gives_mapM items fun item member => (conveys item member).gives).bind ?_)
  exact (gives_pure depth ()).bind (gives_pure depth items)

end Conveying

section Records

/-- The members that are written for the fields of a record, in declaration order: each field is
either read from its member or, when it is left out, keeps what the record has in its place. -/
inductive Fills (depth : Nat) : List (Field α) → α → List (String × Json) → α → Prop where
  | nil (record : α) : Fills depth [] record [] record
  | present {field : Field α} {fields : List (Field α)} {record result : α} {json : Json}
      {change : α → α} {members : List (String × Json)}
      (conveys : Conveys json field.read depth change)
      (others : Fills depth fields (change record) members result) :
      Fills depth (field :: fields) record ((field.name, json) :: members) result
  | absent {field : Field α} {fields : List (Field α)} {record result : α}
      {members : List (String × Json)} (leaves : field.whenAbsent = .leave)
      (others : Fills depth fields record members result) :
      Fills depth (field :: fields) record members result

variable {depth : Nat} {field : Field α} {fields : List (Field α)} {record result : α}
  {members : List (String × Json)}

/-- A member that is written exactly when it has a value fills its field either way. -/
theorem Fills.maybe {value? : Option β} {write : β → Json} (put : Option β → α → α)
    (leaves : field.whenAbsent = .leave) (kept : put none record = record)
    (conveys : ∀ value, value? = some value →
      Conveys (write value) field.read depth (put (some value)))
    (others : Fills depth fields (put value? record) members result) :
    Fills depth (field :: fields) record (optionalMember field.name write value? ++ members)
      result := by
  cases value? with
  | none =>
      rw [kept] at others
      exact .absent leaves others
  | some value => exact .present (conveys value rfl) others

/-- So does one whose field may be null, although null is never written for it. -/
theorem Fills.optional {name : String} {read : Node → Reader β} {value? : Option β}
    {write : β → Json} {put : Option β → α → α} (present : ∀ value, write value ≠ .null)
    (kept : put none record = record)
    (conveys : ∀ value, value? = some value → Conveys (write value) read depth value)
    (others : Fills depth fields (put value? record) members result) :
    Fills depth (.defaulted name (Reader.optional read) put :: fields) record
      (optionalMember name write value? ++ members) result := by
  refine .maybe put rfl kept (fun value given => ?_) others
  exact ((conveys value given).optional (present value)).map put

/-- A list that is written unless it is empty fills its field either way. -/
theorem Fills.unlessEmpty {name : String} {read : Node → Reader (List β)} {items : List β}
    {json : Json} {put : List β → α → α} (kept : put [] record = record)
    (conveys : Conveys json read depth items)
    (others : Fills depth fields (put items record) members result) :
    Fills depth (.defaulted name read put :: fields) record
      ((if items.isEmpty then [] else [(name, json)]) ++ members) result := by
  cases items with
  | nil =>
      rw [kept] at others
      exact .absent rfl others
  | cons => exact .present (conveys.map put) others

/-- Members that fill a record are exact. -/
theorem Fills.exact (fills : Fills depth fields record members result) : MembersExact members := by
  induction fills with
  | nil => trivial
  | present conveys _ inductionHypothesis => exact ⟨conveys.exact, inductionHypothesis⟩
  | absent _ _ inductionHypothesis => exact inductionHypothesis

/-- What is known of the fields that the reader of a record has passed: only their names have been
seen, and the rest of them may be left out. -/
structure Passed (passed : List (Field α)) (seen : List String) : Prop where
  isField : ∀ name ∈ seen, name ∈ passed.map Field.name
  leaves : ∀ field ∈ passed, field.name ∉ seen → field.whenAbsent = .leave

theorem passed_nil : Passed ([] : List (Field α)) [] :=
  ⟨fun _ member => absurd member List.not_mem_nil, fun _ member => absurd member List.not_mem_nil⟩

/-- A field that was read has been passed. -/
theorem Passed.read {passed : List (Field α)} {seen : List String} (before : Passed passed seen) :
    Passed (passed ++ [field]) (field.name :: seen) := by
  constructor
  · intro name member
    rw [List.map_append, List.mem_append]
    rcases List.mem_cons.1 member with rfl | member
    · exact .inr List.mem_cons_self
    · exact .inl (before.isField name member)
  · intro other member unseen
    rw [List.mem_cons, not_or] at unseen
    rcases List.mem_append.1 member with member | member
    · exact before.leaves other member unseen.2
    · exact absurd (congrArg Field.name (List.mem_singleton.1 member)) unseen.1

/-- A field that was left out has been passed, if it may be left out. -/
theorem Passed.skip {passed : List (Field α)} {seen : List String} (before : Passed passed seen)
    (leaves : field.whenAbsent = .leave) : Passed (passed ++ [field]) seen := by
  constructor
  · intro name member
    rw [List.map_append, List.mem_append]
    exact .inl (before.isField name member)
  · intro other member unseen
    rcases List.mem_append.1 member with member | member
    · exact before.leaves other member unseen
    · rw [List.mem_singleton.1 member, leaves]

/-- A field is found by its name. -/
theorem find_name {passed : List (Field α)}
    (distinct : ((passed ++ field :: fields).map Field.name).Nodup) :
    (passed ++ field :: fields).find? (fun other => other.name == field.name) = some field := by
  rw [List.map_append, List.map_cons, List.nodup_append] at distinct
  obtain ⟨-, -, apart⟩ := distinct
  rw [List.find?_append, List.find?_eq_none.2, Option.none_or, List.find?_cons_of_pos]
  · simp
  · intro other member same
    exact apart other.name (List.mem_map_of_mem member) field.name List.mem_cons_self
      (beq_iff_eq.1 same)

/-- Members that fill the fields which have not been passed are read into the record, and every
field that was not seen then may be left out. -/
theorem Fills.readMembers {shape : Shape α} (fills : Fills depth fields record members result)
    (distinct : (shape.fields.map Field.name).Nodup) {passed : List (Field α)} {seen : List String}
    (whole : shape.fields = passed ++ fields) (before : Passed passed seen) :
    ∃ names, Passed shape.fields names ∧
      Gives (shape.readMembers .closed seen record (memberNodes members)) depth
        (names, result) := by
  induction fills generalizing passed seen with
  | nil record =>
      rw [List.append_nil] at whole
      exact ⟨seen, whole ▸ before, (gives_pure depth ()).bind (gives_pure depth _)⟩
  | @present field fields record result json change members conveys others inductionHypothesis =>
      have found := find_name (whole ▸ distinct)
      have unseen : field.name ∉ seen := by
        intro member
        rw [whole, List.map_append, List.nodup_append] at distinct
        exact distinct.2.2 field.name (before.isField _ member) field.name List.mem_cons_self rfl
      have step : shape.readMembers .closed seen record
          (memberNodes ((field.name, json) :: members)) = (do
            let change ← field.read (nodeOf json)
            shape.readMembers .closed (field.name :: seen) (change record)
              (memberNodes members)) := by
        rw [memberNodes, Shape.readMembers, Reader.spelled, pure_bind]
        simp [whole, found, unseen]
      obtain ⟨names, settled, gives⟩ :=
        inductionHypothesis (by rw [whole, List.append_assoc, List.singleton_append]) before.read
      exact ⟨names, settled, step ▸ conveys.gives.bind gives⟩
  | absent leaves others inductionHypothesis =>
      exact inductionHypothesis (by rw [whole, List.append_assoc, List.singleton_append])
        (before.skip leaves)

/-- Fields that may be left out leave the record as it is. -/
theorem gives_settle (absent : List (Field α))
    (leave : ∀ field ∈ absent, field.whenAbsent = .leave) (record : α) :
    Gives (absent.foldlM (fun record field =>
      Shape.settle (.missingField field.name) record field) record) depth record := by
  induction absent with
  | nil => exact gives_pure depth record
  | cons field absent inductionHypothesis =>
      have kept : Shape.settle (.missingField field.name) record field = pure record := by
        rw [Shape.settle, leave field List.mem_cons_self]
      rw [List.foldlM_cons, kept, pure_bind]
      exact inductionHypothesis fun other member => leave other (List.mem_cons_of_mem field member)

/-- Members that fill the fields of a shape convey the record. The empty list behind them lets
members that are put together from parts be brought into one form by associativity alone. -/
theorem Fills.conveys {shape : Shape α} (distinct : (shape.fields.map Field.name).Nodup)
    (fills : Fills depth shape.fields shape.blank (members ++ []) result) :
    Conveys (.object members) shape.read (depth + 1) result := by
  rw [List.append_nil] at fills
  obtain ⟨names, passed, gives⟩ := fills.readMembers distinct (List.nil_append _).symm
    passed_nil
  refine ⟨fills.exact, Gives.entering (gives.bind (gives_settle _ ?_ result))⟩
  intro field absent
  obtain ⟨member, unseen⟩ := List.mem_filter.1 absent
  refine passed.leaves field member fun seen => ?_
  simp [seen] at unseen

end Records

/-- Whether a value is read back from both of its written forms, whatever the supply is. -/
def ReadsBack (json : Json) (read : Node → Reader α) (value : α) : Prop :=
  ∀ supply, readText read json.compactText supply = .ok (value, supply)
    ∧ readText read json.prettyText supply = .ok (value, supply)

/-- What is conveyed is read back, if it is not too deep. -/
theorem Conveys.readsBack {json : Json} {read : Node → Reader α} {depth : Nat} {value : α}
    (conveys : Conveys json read depth value) (shallow : depth < Reader.depthLimit) :
    ReadsBack json read value := by
  have read (text : String) (spells : Document.ofText text = ⟨nodeOf json, false⟩)
      (supply : Supply) : readText read text supply = .ok (value, supply) := by
    have given := conveys.gives Reader.depthLimit shallow supply
    have run : readText read text supply =
        (read (Document.ofText text).root Reader.depthLimit supply).bind fun given =>
          (if (Document.ofText text).hasTrailing then
            throw (.fault .trailingCharacters)
          else pure given.1 : StateT Supply (Except ReadError) α) given.2 := rfl
    rw [run, spells, given]
    rfl
  exact fun supply => ⟨read _ (ofText_compactText json conveys.exact) supply,
    read _ (ofText_prettyText json conveys.exact) supply⟩

end DbSchema.Json
