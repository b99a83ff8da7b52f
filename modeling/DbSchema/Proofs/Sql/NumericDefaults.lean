import DbSchema.Proofs.Json.Acceptance
import DbSchema.Proofs.Json.ShortLiterals
import DbSchema.Proofs.Json.Structure
import DbSchema.Schema.Reading
import DbSchema.Sql.Definition

/-!
# Numeric defaults

How the number that is the default of a column comes from the text of a schema into SQL. The literal
is read as a number, and what is written is the text of that number. Integers keep their spelling as
long as they fit 64 bits. Every other literal is read as a binary64 value: up to fifteen digits the
decimal is kept and spelled in its canonical form, and beyond them the digits change as well.
-/

namespace DbSchema.Sql

open Json (Literal MayGive Node)

/-- A default that is a number is read from its spelling. -/
theorem number_of_mayGive {spelling : Except Json.Fault Number} {value : DefaultValue}
    (given : MayGive (DefaultValue.read (.leaf (.number spelling))) value) :
    ∃ number, spelling = .ok number ∧ value = .number number := by
  obtain ⟨number, spelled, rfl⟩ := given.of_map
  exact ⟨number, spelled.of_spelled, rfl⟩

/-- The field of a column that reads its default. -/
def defaultField : Json.Field Column :=
  .defaulted "defaultValue" DefaultValue.read fun value column =>
    { column with default := some value }

/-- The other fields of a column leave its default alone. -/
theorem settles_defaultField (spelling : Except Json.Fault Number) :
    Column.shape.Settles defaultField (.leaf (.number spelling)) fun column =>
      ∃ number, spelling = .ok number ∧ column.default = some (.number number) where
  distinct := by decide
  isField := List.mem_of_getElem? (rfl : Column.shape.fields[9]? = some defaultField)
  sets := by
    intro change column given
    obtain ⟨value, read, rfl⟩ := given.of_map
    obtain ⟨number, spelled, rfl⟩ := number_of_mayGive read
    exact ⟨number, spelled, rfl⟩
  keeps := by
    intro field isField different
    simp only [Column.shape, List.mem_cons, List.not_mem_nil, or_false] at isField
    rcases isField with rfl | rfl | rfl | rfl | rfl | rfl | rfl | rfl | rfl | same | rfl | rfl
    pick_goal 10
    · exact absurd (congrArg Json.Field.name same) different
    · exact Json.keeps_filled fun _ _ kept => kept
    · exact Json.keeps_required fun _ _ kept => kept
    · exact Json.keeps_required fun _ _ kept => kept
    all_goals exact Json.keeps_defaulted fun _ _ kept => kept

/-- A column whose text has a number as its default is read with that number. -/
theorem default_of_holds {spelling : Except Json.Fault Number} {node : Node} {column : Column}
    (holds : Column.shape.Holds "defaultValue" (.leaf (.number spelling)) node)
    (given : MayGive (Column.shape.read node) column) :
    ∃ number, spelling = .ok number ∧ column.default = some (.number number) :=
  (settles_defaultField spelling).holds_of_read holds given

/-- A literal that is an integer of 64 bits, or is short, is accepted. -/
theorem exists_number (literal : Literal)
    (bounded : literal.IsInteger ∧ literal.FitsWord ∨ literal.IsShort) :
    ∃ number, literal.numeral.value = .ok number := by
  rcases bounded with ⟨isInteger, fits⟩ | short
  · obtain ⟨value, read, -⟩ := Json.exists_integer_of_fitsWord isInteger fits
    exact ⟨_, read⟩
  · obtain ⟨value, read, -⟩ := Json.text_of_isShort short
    exact ⟨_, read⟩

/-- A number literal is one token wherever it stands, and integers of 64 bits and short literals
are accepted. A column that is read, in either form, with a literal as its default prints one text
for it in every dialect and every table. An integer is printed as it was spelled exactly when it
fits 64 bits and is not negative zero. A literal of at most fifteen digits is printed as the same
decimal in its canonical form; without an exponent, that is its own text exactly when it is
plain. -/
theorem numeric_defaults_are_spelled_again (literal : Literal) :
    (∀ rest, Json.Delimits rest →
        Json.tokens (literal.text ++ rest) = .number literal.numeral.value :: Json.tokens rest)
      ∧ (literal.IsInteger ∧ literal.FitsWord ∨ literal.IsShort →
        ∃ number, literal.numeral.value = .ok number)
      ∧ ∀ node column,
        Column.shape.Holds "defaultValue" (.leaf (.number literal.numeral.value)) node →
        MayGive (Column.shape.read node) column →
        ∃ printed : List Char,
          (∀ dialect table,
              (columnClause dialect table column).default = some (.plain (.ofList printed)))
            ∧ (literal.IsInteger → (printed = literal.text ↔ literal.FitsWord))
            ∧ (literal.IsShort → printed = literal.canonicalText)
            ∧ (literal.IsShort → literal.exponent = none →
              (printed = literal.text ↔ ∃ places, literal.IsPlain places)) := by
  refine ⟨fun rest delimits => Json.tokens_literal literal delimits, exists_number literal, ?_⟩
  intro node column holds given
  obtain ⟨number, read, isDefault⟩ := default_of_holds holds given
  have canonical (short : literal.IsShort) : number.text = literal.canonicalText := by
    obtain ⟨value, readShort, printed⟩ := Json.text_of_isShort short
    obtain rfl := Except.ok.inj (read.symm.trans readShort)
    exact printed
  refine ⟨number.text, fun dialect table => ?_, fun isInteger => ?_, canonical,
    fun short noExponent => ?_⟩
  · rw [columnClause, isDefault]
    rfl
  · exact Json.text_eq_iff_fitsWord isInteger read
  · rw [canonical short]
    exact Json.canonicalText_eq_iff short noExponent

/-- A literal with a fraction and no exponent. -/
def fractionLiteral (whole places : List Char) (isWhole : Json.IsDigits whole)
    (noLeadingZero : whole.head? ≠ some '0') (isPlaces : Json.IsDigits places) : Literal where
  negative := false
  whole := whole
  fraction := some places
  exponent := none
  wholeDigits := isWhole
  noLeadingZero zero := absurd zero noLeadingZero
  fractionDigits _ isFraction := Option.some.inj isFraction ▸ isPlaces

/-- A literal with two digits behind the point. -/
def priceLiteral : Literal :=
  fractionLiteral ['1', '9'] ['9', '9'] (Json.isDigits_of_all (by decide) (by decide)) (by decide)
    (Json.isDigits_of_all (by decide) (by decide))

/-- A literal with more digits than a binary64 value has. -/
def amountLiteral : Literal :=
  fractionLiteral "12345678901234567".toList ['8', '9']
    (Json.isDigits_of_all (by decide) (by decide)) (by decide)
    (Json.isDigits_of_all (by decide) (by decide))

/-- The tree of a column with a literal as its default. -/
def amountNode (literal : Literal) : Node :=
  .object (Json.memberNodes [("name", .text "amount"), ("type", .text "decimal")]
    ++ [(⟨.ok "defaultValue", none⟩, .leaf (.number literal.numeral.value))]) .closed

theorem holds_amountNode (literal : Literal) :
    Column.shape.Holds "defaultValue" (.leaf (.number literal.numeral.value))
      (amountNode literal) :=
  ⟨⟨.ok "defaultValue", none⟩, rfl, List.mem_append_right _ (List.mem_singleton_self _)⟩

/-- The column is read if its literal is accepted. -/
theorem exists_mayGive_amountNode {literal : Literal} {number : Number}
    (read : literal.numeral.value = .ok number) :
    ∃ column, MayGive (Column.shape.read (amountNode literal)) column := by
  refine ⟨{ Column.ofType "7" "amount" .decimal with default := some (.number number) }, 2,
    ⟨fun _ => "7", 0, default⟩, ⟨fun _ => "7", 1, default⟩, ?_⟩
  rw [amountNode, read]
  rfl

theorem isShort_priceLiteral : priceLiteral.IsShort where
  noInteger isInteger := nomatch isInteger.1
  digits := by decide
  place := by decide
  power := by decide

/-- Two digits behind the point are printed as they were spelled. -/
theorem numeric_defaults_are_spelled_again_for_price :
    priceLiteral.text = ['1', '9', '.', '9', '9'] ∧ priceLiteral.IsShort
      ∧ ∃ column, MayGive (Column.shape.read (amountNode priceLiteral)) column
        ∧ ∀ dialect table,
          (columnClause dialect table column).default =
            some (.plain (.ofList priceLiteral.text)) := by
  have plain : priceLiteral.IsPlain ['9', '9'] := ⟨rfl, rfl, .inr (by decide), nofun⟩
  obtain ⟨-, accepted, clauses⟩ := numeric_defaults_are_spelled_again priceLiteral
  obtain ⟨number, read⟩ := accepted (.inr isShort_priceLiteral)
  obtain ⟨column, given⟩ := exists_mayGive_amountNode read
  obtain ⟨printed, isDefault, -, -, spelled⟩ :=
    clauses (amountNode priceLiteral) column (holds_amountNode priceLiteral) given
  rw [(spelled isShort_priceLiteral rfl).2 ⟨['9', '9'], plain⟩] at isDefault
  exact ⟨rfl, isShort_priceLiteral, column, given, isDefault⟩

/-- More digits than a binary64 value has are not printed as they were spelled. -/
theorem numeric_defaults_lose_digits :
    ¬∀ (literal : Literal) (node : Node) (column : Column),
      Column.shape.Holds "defaultValue" (.leaf (.number literal.numeral.value)) node →
      MayGive (Column.shape.read node) column → ∀ dialect table,
        (columnClause dialect table column).default = some (.plain (.ofList literal.text)) := by
  intro claim
  have read : amountLiteral.numeral.value = .ok (.float ⟨false, 6172839450617284, 1⟩) := by
    decide +kernel
  have changed : defaultPiece .postgresql (.number (.float ⟨false, 6172839450617284, 1⟩)) ≠
      .plain (.ofList amountLiteral.text) := by decide +kernel
  obtain ⟨column, given⟩ := exists_mayGive_amountNode read
  have holds := holds_amountNode amountLiteral
  obtain ⟨number, readAgain, isDefault⟩ := default_of_holds holds given
  obtain rfl := Except.ok.inj (read.symm.trans readAgain)
  have printed := claim amountLiteral _ column holds given .postgresql "payments"
  rw [columnClause, isDefault] at printed
  exact changed (Option.some.inj printed)

end DbSchema.Sql
