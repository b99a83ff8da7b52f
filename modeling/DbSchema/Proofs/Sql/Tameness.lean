import DbSchema.Proofs.Sql.TableReader
import DbSchema.Proofs.Sql.Words
import DbSchema.Sql.Script

/-!
# What a column clause takes over is tame

A column clause takes over the type of its column and its default. Neither can be mistaken for a
constraint, or cut: they close what parentheses they open, have no comma outside of them, and the
words that they have outside of quotes are none of those that a clause is read by.
-/

namespace DbSchema.Sql

/-- The words that a clause of a column is read by. -/
def clauseWords : List String := ["NOT", "UNIQUE", "DEFAULT"]

/-- Whether letters may stand inside of a column clause: they keep the depth of parentheses and have
no clause words. -/
structure IsTame (letters : List Letter) : Prop where
  keeps : KeepsDepth 0 letters
  wordless : ∀ word ∈ clauseWords, word ∉ wordsOf letters

instance (letters : List Letter) : Decidable (IsTame letters) :=
  decidable_of_iff (KeepsDepth 0 letters ∧ ∀ word ∈ clauseWords, word ∉ wordsOf letters)
    ⟨fun tame => ⟨tame.1, tame.2⟩, fun tame => ⟨tame.keeps, tame.wordless⟩⟩

/-- Whether letters may stand between the parentheses of a type: those of plain text are neither
capital letters nor parentheses. -/
def IsMeasure (letters : List Letter) : Prop :=
  ∀ letter ∈ letters, letter.role = .plain →
    letter.character.isUpper = false ∧ letter.character ∉ ['(', ')']

instance (letters : List Letter) : Decidable (IsMeasure letters) :=
  inferInstanceAs (Decidable (∀ letter ∈ letters, _))

/-- Whether every character of a text may stand in a number. -/
def IsNumeric (text : List Char) : Prop :=
  ∀ character ∈ text, character.isDigit = true ∨ character ∈ ['+', '-', '.', 'e']

instance (text : List Char) : Decidable (IsNumeric text) :=
  List.decidableBAll _ text

section Numbers

theorem isNumeric_append {left right : List Char} (numericLeft : IsNumeric left)
    (numericRight : IsNumeric right) : IsNumeric (left ++ right) :=
  List.forall_mem_append.2 ⟨numericLeft, numericRight⟩

theorem isNumeric_cons {character : Char} {text : List Char}
    (numeric : character.isDigit = true ∨ character ∈ ['+', '-', '.', 'e'])
    (numericText : IsNumeric text) : IsNumeric (character :: text) :=
  List.forall_mem_cons.2 ⟨numeric, numericText⟩

/-- Digits are numeric. -/
theorem isNumeric_naturalText (number : Nat) : IsNumeric (naturalText number) :=
  fun _ member => .inl (isDigit_of_mem_naturalText member)

/-- The text of an integer is numeric. -/
theorem isNumeric_integerText (number : Int) : IsNumeric (integerText number) := by
  unfold integerText
  split
  · exact isNumeric_cons (by decide) (isNumeric_naturalText _)
  · exact isNumeric_naturalText _

/-- A decimal with an exponent is numeric. -/
theorem isNumeric_scientific (decimal : Decimal) : IsNumeric decimal.scientific := by
  have digits := isNumeric_naturalText decimal.digits
  unfold Decimal.scientific
  dsimp only
  generalize naturalText decimal.digits = spelled at digits
  generalize Int.ofNat spelled.length + decimal.exponent - 1 = exponent
  have power : IsNumeric (if exponent < 0 then integerText exponent
      else '+' :: integerText exponent) := by
    split
    · exact isNumeric_integerText exponent
    · exact isNumeric_cons (by decide) (isNumeric_integerText exponent)
  refine isNumeric_append (isNumeric_append ?_ (by decide)) power
  split
  case h_1 first second rest =>
    obtain ⟨here, behind⟩ := List.forall_mem_cons.1 digits
    exact isNumeric_cons here (isNumeric_cons (by decide) behind)
  case h_2 => exact digits

/-- The text of a number is numeric. -/
theorem isNumeric_numberText (number : Number) : IsNumeric number.text := by
  cases number with
  | integer value => exact isNumeric_integerText value
  | float value =>
      rw [Number.text, Binary64.text]
      refine isNumeric_append ?_ ?_
      · split <;> decide
      · split
        · decide
        · unfold Decimal.text
          dsimp only
          split
          · exact forall_mem_positional value.shortest (fun _ => .inl) (by decide)
          · exact isNumeric_scientific value.shortest

end Numbers

section Letters

variable {text : List Char} {letters keyword : List Letter}

/-- A numeric text has neither capital letters nor parentheses nor commas. -/
theorem IsNumeric.unmarked (numeric : IsNumeric text) {character : Char}
    (member : character ∈ text) :
    character.isUpper = false ∧ character ∉ ['(', ')', ','] := by
  rcases numeric character member with digit | sign
  · refine ⟨?_, fun mark => ?_⟩
    · unfold Char.isDigit at digit
      unfold Char.isUpper
      grind
    · simp only [List.mem_cons, List.not_mem_nil, or_false] at mark
      rcases mark with rfl | rfl | rfl <;> exact absurd digit (by decide)
  · simp only [List.mem_cons, List.not_mem_nil, or_false] at sign
    rcases sign with rfl | rfl | rfl | rfl <;> decide

/-- Letters have no clause word, if no capital letter of plain text is among them. -/
theorem wordless_of_small
    (small : ∀ letter ∈ letters, letter.role = .plain → letter.character.isUpper = false) :
    ∀ word ∈ clauseWords, word ∉ wordsOf letters := by
  intro word isClauseWord member
  have capital : ∀ word ∈ clauseWords, word.toList.any Char.isUpper = true := by decide
  obtain ⟨character, inWord, upper⟩ := List.any_eq_true.1 (capital word isClauseWord)
  have lower := small _ (exists_letter_of_mem_wordsOf member inWord) rfl
  exact absurd upper (by simpa using lower)

/-- A numeric text is tame. -/
theorem isTame_numeric (numeric : IsNumeric text) : IsTame (lettersAs .plain text) := by
  have unmarked (letter : Letter) (member : letter ∈ lettersAs .plain text) :=
    numeric.unmarked (mem_lettersAs.1 member).1
  exact ⟨keepsDepth_of_unmarked fun letter member _ => (unmarked letter member).2,
    wordless_of_small fun letter member _ => (unmarked letter member).1⟩

/-- A quoted text is tame. -/
theorem isTame_quoted : IsTame (lettersAs .quoted text) := by
  refine ⟨keepsDepth_quoted, wordless_of_small fun letter member plain => ?_⟩
  simp [(mem_lettersAs.1 member).2] at plain

/-- Key words stay tame with measures in parentheses behind them. -/
theorem IsTame.measured (tame : IsTame keyword) (measure : IsMeasure letters) :
    IsTame (keyword ++ ⟨'(', .plain⟩ :: (letters ++ [⟨')', .plain⟩])) := by
  have keeps : KeepsDepth 1 letters :=
    keepsDepth_inside fun letter member plain => (measure letter member plain).2
  have small : ∀ letter ∈ (⟨'(', .plain⟩ :: (letters ++ [⟨')', .plain⟩]) : List Letter),
      letter.role = .plain → letter.character.isUpper = false := by
    simp only [List.forall_mem_cons, List.forall_mem_append]
    exact ⟨fun _ => by decide, fun letter member plain => (measure letter member plain).1,
      fun _ => by decide, by simp⟩
  refine ⟨tame.keeps.append keeps.parenthesised, fun word isClauseWord member => ?_⟩
  rw [wordsOf_append (by rfl), List.mem_append] at member
  exact member.elim (tame.wordless word isClauseWord) (wordless_of_small small word isClauseWord)

/-- Digits are a measure. -/
theorem isMeasure_digits (value : UInt32) :
    IsMeasure (lettersAs .plain (Dialect.digits value).toList) := by
  intro letter member _
  rw [Dialect.digits, String.toList_ofList] at member
  have unmarked := (isNumeric_naturalText value.toNat).unmarked (mem_lettersAs.1 member).1
  exact ⟨unmarked.1, fun mark => unmarked.2 (by grind)⟩

/-- Literals with commas between them are a measure. -/
theorem isMeasure_literals (quote : Char) (texts : List String) :
    IsMeasure (lettersOf quote (Piece.literals texts)) := by
  intro letter member plain
  have gap : IsMeasure (lettersAs .plain ", ".toList) := by decide
  rcases role_of_mem_separated (by simp [Piece.role]) member with quoted | between
  · simp [quoted] at plain
  · exact gap letter between plain

end Letters

section Columns

variable (quote : Char) (dialect : Dialect)

/-- The words for a type without its measures are tame. -/
theorem isTame_typeKeyword (type : ColumnType) :
    IsTame (lettersAs .plain (dialect.typeKeyword type).toList) := by
  cases dialect <;> cases type <;> decide

/-- The words for a type with its measures are tame. -/
theorem isTame_scalarType (type : ColumnType) (length precision scale : Option UInt32) :
    IsTame (lettersAs .plain (dialect.scalarType type length precision scale).toList) := by
  have keyword := isTame_typeKeyword dialect type
  unfold Dialect.scalarType
  dsimp only
  split
  · simpa using keyword.measured (isMeasure_digits (length.getD Dialect.defaultLength))
  · split
    · have comma : IsMeasure (lettersAs .plain [',']) := by decide
      have measure : IsMeasure (lettersAs .plain (Dialect.digits _).toList
          ++ (lettersAs .plain [','] ++ lettersAs .plain (Dialect.digits _).toList)) :=
        List.forall_mem_append.2 ⟨isMeasure_digits (precision.getD Dialect.defaultPrecision),
          List.forall_mem_append.2 ⟨comma, isMeasure_digits (scale.getD Dialect.defaultScale)⟩⟩
      simpa using keyword.measured measure
    · exact keyword

/-- The type of a column is tame. -/
theorem isTame_columnType (table : String) (column : Column) :
    IsTame (lettersOf quote (columnType dialect table column).pieces) := by
  have plain {text : String} (tame : IsTame (lettersAs .plain text.toList)) :
      IsTame (lettersOf quote (TypeClause.words text).pieces) := by
    simpa [TypeClause.pieces, Piece.role, Piece.text] using tame
  unfold columnType
  split
  · split
    · exact plain (by cases dialect <;> decide)
    · split
      · rw [TypeClause.pieces, lettersOf_cons, lettersOf_nil, List.append_nil]
        exact isTame_quoted
      · have keyword : IsTame (lettersAs .plain "ENUM".toList) := by decide
        simpa [TypeClause.pieces, Piece.role, Piece.text] using
          keyword.measured (isMeasure_literals quote column.enumValues)
  · exact plain (isTame_scalarType dialect _ _ _ _)

/-- A default that is no expression is tame. -/
theorem isTame_defaultPiece {value : DefaultValue}
    (literal : ∀ text, value = .text text → isExpression text = false) :
    IsTame (lettersOf quote [defaultPiece dialect value]) := by
  rw [lettersOf_cons, lettersOf_nil, List.append_nil]
  cases value with
  | null => exact (by decide : IsTame (lettersAs .plain "NULL".toList))
  | boolean value =>
      have tame : IsTame (lettersAs .plain (dialect.booleanLiteral value).toList) := by
        cases dialect <;> cases value <;> decide
      exact tame
  | number value =>
      have tame := isTame_numeric (isNumeric_numberText value)
      rwa [← String.toList_ofList (l := value.text)] at tame
  | text value =>
      rw [defaultPiece, literal value rfl]
      exact isTame_quoted

end Columns

end DbSchema.Sql
