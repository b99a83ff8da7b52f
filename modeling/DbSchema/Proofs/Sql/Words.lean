import DbSchema.Proofs.Sql.Lexer
import DbSchema.Sql.Routine

/-!
# The words of SQL text are calm

Everything that a statement writes as it stands: key words, types with their numbers, numbers as
defaults, and the language of a routine. None of it starts a comment, a quoted text or a body, and
none of it ends a statement.
-/

namespace DbSchema.Sql

/-- A text is steady when all of its characters are ordinary and none is a dash. -/
def IsSteady (text : List Char) : Prop :=
  ∀ character ∈ text, isOrdinary character = true ∧ character ≠ '-'

/-- Steady texts are calm. -/
theorem IsSteady.isCalm {text : List Char} (steady : IsSteady text) : isCalm text = true := by
  induction text with
  | nil => rfl
  | cons character text inductionHypothesis =>
      have here := steady character (by simp)
      have behind := inductionHypothesis fun other member => steady other (by simp [member])
      simp [Sql.isCalm, here.1, here.2, behind]

/-- Letters, digits and underscores are steady. -/
theorem isSteady_of_word {text : List Char}
    (word : ∀ character ∈ text, character.isAlphanum = true ∨ character = '_') :
    IsSteady text := by
  intro character member
  have other {mark : Char} (noWord : ¬(mark.isAlphanum = true ∨ mark = '_')) :
      character ≠ mark := by
    rintro rfl
    exact noWord (word character member)
  simp only [isOrdinary, Bool.and_eq_true, bne_iff_ne]
  exact ⟨⟨⟨⟨⟨other (by decide), other (by decide)⟩, other (by decide)⟩, other (by decide)⟩,
    other (by decide)⟩, other (by decide)⟩

/-- A calm text may stand behind a dash, if it does not start with one. -/
theorem isCalm_dash {text : List Char} (calm : isCalm text = true)
    (starts : text.head?.any (· != '-') = true) : isCalm ('-' :: text) = true := by
  simp only [isCalm, starts, calm, bne_self_eq_false, Bool.false_or, Bool.and_true]
  decide

section Numbers

/-- Digits are steady. -/
theorem isSteady_naturalText (number : Nat) : IsSteady (naturalText number) :=
  isSteady_of_word fun character member => .inl <| by
    simp [Char.isAlphanum, isDigit_of_mem_naturalText member]

/-- A steady text that is not empty may follow a dash, and so may everything that it starts. -/
theorem head?_of_isSteady {text : List Char} (rest : List Char) (steady : IsSteady text)
    (nonempty : text ≠ []) : (text ++ rest).head?.any (· != '-') = true := by
  cases text with
  | nil => exact absurd rfl nonempty
  | cons character text => simpa using (steady character (by simp)).2

/-- The text of an integer is calm. -/
theorem isCalm_integerText (number : Int) : isCalm (integerText number) = true := by
  have steady := isSteady_naturalText number.natAbs
  have starts : (naturalText number.natAbs).head?.any (· != '-') = true := by
    simpa using head?_of_isSteady [] steady Nat.toDigits_ne_nil
  unfold integerText
  split
  · exact isCalm_dash steady.isCalm starts
  · exact steady.isCalm

/-- What holds of digits and the point holds of every character of a decimal in positional form. -/
theorem forall_mem_positional {property : Char → Prop} (decimal : Decimal)
    (digit : ∀ character : Char, character.isDigit = true → property character)
    (point : property '.') : ∀ character ∈ decimal.positional, property character := by
  have digits (character : Char) (member : character ∈ naturalText decimal.digits) :
      property character :=
    digit character (isDigit_of_mem_naturalText member)
  have zero : property '0' := digit '0' (by decide)
  have zeros (count : Nat) : ∀ character ∈ List.replicate count '0', property character :=
    fun character member => List.eq_of_mem_replicate member ▸ zero
  unfold Decimal.positional
  dsimp only
  split
  · simp only [List.forall_mem_append, List.forall_mem_cons]
    exact ⟨⟨digits, zeros _⟩, point, zero, by simp⟩
  · split
    · have before (count : Nat) :
          ∀ character ∈ (naturalText decimal.digits).take count, property character :=
        fun character member => digits character (List.mem_of_mem_take member)
      have behind (count : Nat) :
          ∀ character ∈ (naturalText decimal.digits).drop count, property character :=
        fun character member => digits character (List.mem_of_mem_drop member)
      simp only [List.forall_mem_append, List.forall_mem_singleton]
      exact ⟨⟨before _, point⟩, behind _⟩
    · simp only [List.forall_mem_append, List.forall_mem_cons]
      exact ⟨⟨⟨zero, point, by simp⟩, zeros _⟩, digits⟩

/-- A decimal in positional form is steady and not empty. -/
theorem positional_isSteady (decimal : Decimal) :
    IsSteady decimal.positional ∧ decimal.positional ≠ [] := by
  refine ⟨forall_mem_positional decimal (fun character digit => ?_) (by decide), ?_⟩
  · have steady : IsSteady [character] := isSteady_of_word (by simp [Char.isAlphanum, digit])
    exact steady character (.head _)
  · unfold Decimal.positional
    dsimp only
    split
    · simp
    · split <;> simp

/-- A decimal with an exponent is calm and does not start with a dash. -/
theorem scientific_isCalm (decimal : Decimal) :
    isCalm decimal.scientific = true ∧ decimal.scientific.head?.any (· != '-') = true := by
  have digits := isSteady_naturalText decimal.digits
  have nonempty : naturalText decimal.digits ≠ [] := Nat.toDigits_ne_nil
  unfold Decimal.scientific
  dsimp only
  generalize naturalText decimal.digits = spelled at digits nonempty
  generalize Int.ofNat spelled.length + decimal.exponent - 1 = exponent
  have power : isCalm (if exponent < 0 then integerText exponent
      else '+' :: integerText exponent) = true := by
    split
    · exact isCalm_integerText exponent
    · simpa [isCalm, isOrdinary] using isCalm_integerText exponent
  generalize (if exponent < 0 then integerText exponent else '+' :: integerText exponent) =
    signed at power
  have joined {mantissa : List Char} (steady : IsSteady mantissa) (some : mantissa ≠ []) :
      isCalm (mantissa ++ ['e'] ++ signed) = true
        ∧ (mantissa ++ ['e'] ++ signed).head?.any (· != '-') = true := by
    refine ⟨isCalm_append (isCalm_append steady.isCalm (by decide)) power, ?_⟩
    rw [List.append_assoc]
    exact head?_of_isSteady _ steady some
  cases spelled with
  | nil => exact absurd rfl nonempty
  | cons first others =>
      cases others with
      | nil => exact joined digits nonempty
      | cons second rest =>
          refine joined (fun character member => ?_) (by simp)
          simp only [List.mem_cons] at member
          rcases member with rfl | rfl | rfl | member
          · exact digits _ (by simp)
          · decide
          · exact digits _ (by simp)
          · exact digits _ (by simp [member])

/-- The text of a number is calm. -/
theorem isCalm_numberText (number : Number) : isCalm number.text = true := by
  cases number with
  | integer value => exact isCalm_integerText value
  | float value =>
      have unsigned : isCalm (if value.isZero then ['0', '.', '0']
            else value.shortest.text .data) = true
          ∧ (if value.isZero then ['0', '.', '0']
            else value.shortest.text .data).head?.any (· != '-') = true := by
        split
        · decide
        · unfold Decimal.text
          dsimp only
          split
          · have positional := positional_isSteady value.shortest
            refine ⟨positional.1.isCalm, ?_⟩
            simpa using head?_of_isSteady [] positional.1 positional.2
          · exact scientific_isCalm value.shortest
      simp only [Number.text, Binary64.text]
      split
      · exact isCalm_dash unsigned.1 unsigned.2
      · exact unsigned.1

end Numbers

section Types

variable (dialect : Dialect)

/-- The words for a type without its measures are calm. -/
theorem isCalm_typeKeyword (type : ColumnType) :
    isCalm (dialect.typeKeyword type).toList = true := by
  cases dialect <;> cases type <;> decide

/-- The words for a type with its measures are calm. -/
theorem isCalm_scalarType (type : ColumnType) (length precision scale : Option UInt32) :
    isCalm (dialect.scalarType type length precision scale).toList = true := by
  have keyword := isCalm_typeKeyword dialect type
  have digits (value : UInt32) : isCalm (Dialect.digits value).toList = true := by
    rw [Dialect.digits, String.toList_ofList]
    exact (isSteady_naturalText value.toNat).isCalm
  unfold Dialect.scalarType
  dsimp only
  split
  · simp only [String.toList_append]
    exact isCalm_append (isCalm_append (isCalm_append keyword (by decide)) (digits _)) (by decide)
  · split
    · simp only [String.toList_append]
      exact isCalm_append (isCalm_append (isCalm_append (isCalm_append
        (isCalm_append keyword (by decide)) (digits _)) (by decide)) (digits _)) (by decide)
    · exact keyword

/-- The words for a type without values are calm. -/
theorem isCalm_emptyEnumType : isCalm dialect.emptyEnumType.toList = true := by
  cases dialect <;> decide

/-- The words for a type in a routine are calm. -/
theorem isCalm_routineType (type : ColumnType) :
    isCalm (dialect.routineType type).toList = true := by
  unfold Dialect.routineType
  split
  · exact isCalm_emptyEnumType dialect
  · exact isCalm_scalarType dialect type none none none

/-- The words for what a routine returns are calm. -/
theorem isCalm_returnWords (type : ReturnType) :
    isCalm (returnWords dialect type).toList = true := by
  cases type with
  | void => exact (by decide : isCalm "VOID".toList = true)
  | table => exact (by decide : isCalm "TABLE".toList = true)
  | scalar type => exact isCalm_routineType dialect type

/-- A truth value is calm. -/
theorem isCalm_booleanLiteral (value : Bool) :
    isCalm (dialect.booleanLiteral value).toList = true := by
  cases dialect <;> cases value <;> decide

/-- The key words of an action are calm. -/
theorem isCalm_keywords (action : ReferentialAction) : isCalm action.keywords.toList = true := by
  cases action <;> decide

/-- The key word of a method is calm. -/
theorem isCalm_methodKeyword (method : IndexMethod) : isCalm method.keyword.toList = true := by
  cases method <;> decide

/-- The key word of a direction is calm. -/
theorem isCalm_directionKeyword (direction : ParameterDirection) :
    isCalm direction.keyword.toList = true := by
  cases direction <;> decide

end Types

section Languages

/-- Whether a text is made of ASCII letters, digits and underscores. -/
def isWord (text : String) : Bool :=
  text.toList.all fun character => character.isAlphanum || character = '_'

/-- Trimming makes no new characters. -/
theorem mem_of_mem_trim {text : String} {character : Char}
    (member : character ∈ (Text.trim text).toList) : character ∈ text.toList := by
  rw [Text.trim, String.toList_ofList] at member
  have inStart := (Text.dropTrailing_prefix _ _).subset member
  exact (List.dropWhile_suffix _).subset inStart

/-- Nothing is left of a blank text when it is trimmed. -/
theorem trim_of_isBlankText {text : String} (blank : Text.isBlankText text = true) :
    Text.trim text = "" := by
  have dropped {characters : List Char} (blank : characters.all Text.isBlank = true) :
      characters.dropWhile Text.isBlank = [] := by
    induction characters with
    | nil => rfl
    | cons character characters inductionHypothesis =>
        rw [List.all_cons, Bool.and_eq_true] at blank
        rw [List.dropWhile_cons_of_pos blank.1, inductionHypothesis blank.2]
  simp [Text.trim, Text.trimStart, dropped blank, Text.trimEnd, Text.dropTrailing]

/-- The language of a routine is calm, if the one that the routine names is blank or a word. -/
theorem isCalm_languageOf {routine : Routine}
    (plain : ∀ language, routine.language = some language →
      Text.isBlankText language = true ∨ isWord language = true) :
    isCalm (languageOf routine).toList = true := by
  have default : isCalm defaultLanguage.toList = true := by decide
  unfold languageOf
  cases named : routine.language with
  | none => exact default
  | some language =>
      rw [Option.map_some, Option.filter_some]
      split
      · rename_i given
        rcases plain language named with blank | word
        · simp [trim_of_isBlankText blank] at given
        · refine (isSteady_of_word fun character member => ?_).isCalm
          have inWord := List.all_eq_true.1 word character (mem_of_mem_trim member)
          simpa using inWord
      · exact default

end Languages

end DbSchema.Sql
