import DbSchema.Json.Lexer
import DbSchema.Json.Value

/-!
# The tokens of written values

Cutting a written value into tokens gives the tokens that its structure calls for, on one line and
over several lines alike, and whatever may stand behind a value is cut on its own. Numbers are the
one place where what follows matters, because a numeral goes on for as long as it can.
-/

namespace DbSchema.Json

/-- An integer that fits 64 bits, with or without a sign. -/
def IsExact : Number → Prop
  | .integer value => -0x8000000000000000 ≤ value ∧ value < 0x10000000000000000
  | .float _ => False

/-- Whether a text may stand behind a numeral: it does not go on with it. -/
def Delimits (text : List Char) : Prop :=
  ∀ character, text.head? = some character →
    character.isDigit = false ∧ character ≠ '.' ∧ character ≠ 'e' ∧ character ≠ 'E'

theorem delimits_nil : Delimits [] := by
  simp [Delimits]

theorem delimits_cons {character : Char} (rest : List Char)
    (other : character.isDigit = false ∧ character ≠ '.' ∧ character ≠ 'e' ∧ character ≠ 'E') :
    Delimits (character :: rest) := by
  simpa [Delimits] using other

section Texts

/-- The unit that a written character is scanned as: control characters without a letter are code
units, and everything else stands for itself. -/
def unitOf (character : Char) : TextUnit :=
  if character < ' ' ∧ character ∉ ['\x08', '\t', '\n', '\x0c', '\r'] then .code character.toNat
  else .plain character

/-- Four hexadecimal digits spell a control character. -/
theorem codeUnit_twoHexDigits : ∀ number < 32,
    codeUnit '0' '0' (Nat.digitChar (number / 16 % 16)) (Nat.digitChar (number % 16)) =
      some number := by
  decide

/-- A short escape is scanned as the character that it names. -/
theorem scanText_shortEscape {letter named : Char} (rest : List Char) (other : letter ≠ 'u')
    (names : shortEscape letter = some named) :
    scanText ('\\' :: letter :: rest) = (scanText rest).cons (.plain named) := by
  rw [scanText.eq_def]
  simp [other, names]

/-- A written character is scanned as its unit. -/
theorem scanText_escapeChar (character : Char) (rest : List Char) :
    scanText (escapeChar character ++ rest) = (scanText rest).cons (unitOf character) := by
  -- The characters with a letter of their own come first, and are then known to be no others.
  by_cases named : character ∈ ['"', '\\', '\x08', '\t', '\n', '\x0c', '\r']
  · simp only [List.mem_cons, List.not_mem_nil, or_false] at named
    rcases named with rfl | rfl | rfl | rfl | rfl | rfl | rfl <;>
      exact scanText_shortEscape rest (by decide) rfl
  · simp only [List.mem_cons, List.not_mem_nil, or_false, not_or] at named
    obtain ⟨noQuote, noBackslash, noBackspace, noTab, noFeed, noPage, noReturn⟩ := named
    by_cases control : character < ' '
    · have bound : character.toNat < 32 := control
      have written : escapeChar character =
          ['\\', 'u', '0', '0'] ++ twoHexDigits character.toNat := by
        simp [escapeChar, noQuote, noBackslash, noBackspace, noTab, noFeed, noPage, noReturn,
          control]
      have unit : unitOf character = .code character.toNat := by
        simp [unitOf, control, noBackspace, noTab, noFeed, noPage, noReturn]
      rw [written, unit, List.append_assoc, twoHexDigits, scanText.eq_def]
      simp [codeUnit_twoHexDigits character.toNat bound]
    · have written : escapeChar character = [character] := by
        simp [escapeChar, noQuote, noBackslash, noBackspace, noTab, noFeed, noPage, noReturn,
          control]
      have unit : unitOf character = .plain character := by simp [unitOf, control]
      rw [written, unit, List.singleton_append, scanText.eq_def]
      simp [noQuote, noBackslash, control]

/-- Written characters are scanned up to the closing quote. -/
theorem scanText_quoted (text rest : List Char) :
    scanText (text.flatMap escapeChar ++ '"' :: rest) = ⟨text.map unitOf, .closed, rest⟩ := by
  induction text with
  | nil =>
      rw [List.flatMap_nil, List.nil_append, scanText.eq_def]
      rfl
  | cons character text inductionHypothesis =>
      rw [List.flatMap_cons, List.append_assoc, scanText_escapeChar, inductionHypothesis]
      rfl

/-- The unit of a written character is decoded to the character. -/
theorem decodeUnits_unitOf (character : Char) (ending : TextEnd) (rest : List TextUnit) :
    decodeUnits ending (unitOf character :: rest) =
      (decodeUnits ending rest).map (character :: ·) := by
  unfold unitOf
  split
  case isTrue control =>
    have bound : character.toNat < 32 := control.1
    have noLow : isLowSurrogate character.toNat = false := by
      rw [isLowSurrogate, Bool.and_eq_false_iff, decide_eq_false_iff_not]
      omega
    have noHigh : isHighSurrogate character.toNat = false := by
      rw [isHighSurrogate, Bool.and_eq_false_iff, decide_eq_false_iff_not]
      omega
    rw [decodeUnits.eq_def]
    simp [noLow, noHigh]
  case isFalse => rw [decodeUnits]

/-- A token is cut off where it ends. -/
theorem tokens_of_cut {first : Char} {rest behind : List Char} {token : Token}
    (noSpace : isSpace first = false) (cut : cutToken first rest = ⟨token, behind⟩) :
    tokens (first :: rest) = token :: tokens behind := by
  rw [tokens]
  simp [noSpace, cut]

/-- A written text is cut as that text. -/
theorem tokens_quoted (text : String) (rest : List Char) :
    tokens (quoted text ++ rest) = .text ⟨.ok text, none⟩ :: tokens rest := by
  have decoded (text : List Char) : decodeUnits .closed (text.map unitOf) = .ok text := by
    induction text with
    | nil => rfl
    | cons character text inductionHypothesis =>
        rw [List.map_cons, decodeUnits_unitOf, inductionHypothesis]
        rfl
  have read : (TextScan.mk (text.toList.map unitOf) .closed rest).quoted = ⟨.ok text, none⟩ := by
    simp [TextScan.quoted, decoded, Except.map, TextEnd.fault]
  have scanned := scanText_quoted text.toList rest
  have cut : cutToken '"' (text.toList.flatMap escapeChar ++ '"' :: rest) =
      ⟨.text ⟨.ok text, none⟩, rest⟩ := by
    simp [cutToken, markOf, wordOf, scanned, read]
  rw [quoted, List.cons_append, List.append_assoc]
  exact tokens_of_cut (by decide) cut

end Texts

section Numbers

/-- Digits only make a number larger. -/
theorem le_ofDigitChars (digits : List Char) (start : Nat) :
    start ≤ Nat.ofDigitChars 10 digits start := by
  rw [Nat.ofDigitChars_eq_ofDigitChars_zero]
  have positive : 0 < 10 ^ digits.length := Nat.pow_pos (by decide)
  exact Nat.le_trans (Nat.le_mul_of_pos_left start positive) (Nat.le_add_right _ _)

/-- Digits are gathered into a significand, if the number that they spell fits. -/
theorem gather_digits (digits : List Char) (significand : Nat)
    (fits : Nat.ofDigitChars 10 digits significand < Numeral.significandBound) :
    Numeral.gather significand digits = (Nat.ofDigitChars 10 digits significand, []) := by
  induction digits generalizing significand with
  | nil => simp [Numeral.gather]
  | cons digit digits inductionHypothesis =>
      have same : 10 * significand + (digit.toNat - '0'.toNat) =
          significand * 10 + Numeral.digitValue digit := by
        rw [Numeral.digitValue, Nat.mul_comm]
      rw [Nat.ofDigitChars_cons, same] at fits ⊢
      have here := Nat.lt_of_le_of_lt (le_ofDigitChars digits _) fits
      rw [Numeral.gather, if_pos here, inductionHypothesis _ fits]

/-- The digits of a positive number do not start with a zero. -/
theorem head_naturalText {number : Nat} (positive : 0 < number) :
    (naturalText number).head? ≠ some '0' := by
  induction number using Nat.strongRecOn with
  | ind number inductionHypothesis =>
      unfold naturalText at *
      by_cases small : number < 10
      · simp [Nat.toDigits_of_lt_base small, Nat.ne_of_gt positive]
      · have shorter := inductionHypothesis (number / 10) (by omega) (by omega)
        rw [Nat.toDigits_of_base_le (by decide) (by omega), List.head?_append]
        cases digits : (Nat.toDigits 10 (number / 10)).head? with
        | none => simp [Nat.toDigits_ne_nil] at digits
        | some digit => simpa [digits] using shorter

/-- A number of 64 bits is what its digits stand for. -/
theorem value_naturalText (negative : Bool) {number : Nat} (fits : number < 0x10000000000000000) :
    Numeral.value ⟨negative, naturalText number, none, none⟩ =
      .ok (Numeral.wholeValue negative number) := by
  have spelled : Nat.ofDigitChars 10 (naturalText number) 0 = number :=
    Nat.ofDigitChars_ten_toDigits
  have gathered := gather_digits (naturalText number) 0 (by rwa [spelled])
  simp [Numeral.value, gathered, spelled]

/-- Behind the digits of a number, a text that delimits it is not part of it. -/
theorem cutFraction_delimits (negative : Bool) (whole : List Char) {rest : List Char}
    (delimits : Delimits rest) :
    cutFraction negative whole rest =
      ⟨.number (Numeral.value ⟨negative, whole, none, none⟩), rest⟩ := by
  cases rest with
  | nil => rfl
  | cons mark behind =>
      obtain ⟨-, noPoint, noSmall, noLarge⟩ := delimits mark rfl
      simp [cutFraction, cutExponent, noPoint, noSmall, noLarge]

/-- The digits of a number are cut as a numeral. -/
theorem cutNumeral_naturalText (negative : Bool) (number : Nat) {rest : List Char}
    (delimits : Delimits rest) :
    cutNumeral negative (naturalText number ++ rest) =
      ⟨.number (Numeral.value ⟨negative, naturalText number, none, none⟩), rest⟩ := by
  have areDigits : ∀ digit ∈ naturalText number, digit.isDigit = true :=
    fun _ => isDigit_of_mem_naturalText
  have stops : rest.takeWhile Char.isDigit = [] ∧ rest.dropWhile Char.isDigit = rest := by
    cases rest with
    | nil => simp
    | cons mark behind => simp [(delimits mark rfl).1]
  have whole : (naturalText number ++ rest).takeWhile Char.isDigit = naturalText number := by
    rw [List.takeWhile_append_of_pos areDigits, stops.1, List.append_nil]
  have behind : (naturalText number ++ rest).dropWhile Char.isDigit = rest := by
    rw [List.dropWhile_append_of_pos areDigits, stops.2]
  unfold cutNumeral
  simp only [whole, behind]
  split
  case h_1 empty => exact absurd empty Nat.toDigits_ne_nil
  case h_2 second others zero =>
    cases number with
    | zero => simp [naturalText] at zero
    | succ number => exact absurd (by simp [zero]) (head_naturalText (Nat.succ_pos number))
  case h_3 => exact cutFraction_delimits negative _ delimits

/-- A digit starts a numeral. -/
theorem cutToken_digit {digit : Char} (rest : List Char) (isDigit : digit.isDigit = true) :
    cutToken digit rest = cutNumeral false (digit :: rest) := by
  have noMark : markOf digit = none := by
    unfold markOf
    split <;> first | rfl | exact absurd isDigit (by decide)
  have noWord : wordOf digit = none := by
    unfold wordOf
    split <;> first | rfl | exact absurd isDigit (by decide)
  have noQuote : digit ≠ '"' := fun same => absurd (same ▸ isDigit) (by decide)
  have noMinus : digit ≠ '-' := fun same => absurd (same ▸ isDigit) (by decide)
  simp [cutToken, noMark, noWord, noQuote, noMinus, isDigit]

/-- The sign and the digits of an exact integer stand for it. -/
theorem wholeValue_natAbs {value : Int} (least : -0x8000000000000000 ≤ value) :
    Numeral.wholeValue (value < 0) value.natAbs = .integer value := by
  by_cases negative : value < 0
  · have nonzero : ¬(value.natAbs == 0) = true := by
      rw [beq_iff_eq]
      omega
    have bounded : ¬0x8000000000000000 < value.natAbs := by omega
    have same : -Int.ofNat value.natAbs = value := by
      rw [Int.ofNat_eq_natCast]
      omega
    simp only [Numeral.wholeValue, negative, nonzero, bounded, same, decide_true, decide_false,
      Bool.not_true, Bool.or_self, Bool.false_eq_true, ↓reduceIte]
  · have same : Int.ofNat value.natAbs = value := Int.natAbs_of_nonneg (by omega)
    simp only [Numeral.wholeValue, negative, same, decide_false, Bool.not_false, ↓reduceIte]

/-- A digit is no blank. -/
theorem isSpace_digit {digit : Char} (isDigit : digit.isDigit = true) : isSpace digit = false := by
  rw [Bool.eq_false_iff]
  intro space
  simp only [isSpace, Bool.or_eq_true, decide_eq_true_eq] at space
  rcases space with ((rfl | rfl) | rfl) | rfl <;> exact absurd isDigit (by decide)

/-- An exact number is cut as that number. -/
theorem tokens_number {number : Number} {rest : List Char} (exact : IsExact number)
    (delimits : Delimits rest) :
    tokens (number.text ++ rest) = .number (.ok number) :: tokens rest := by
  cases number with
  | float => exact exact.elim
  | integer value =>
      obtain ⟨least, greatest⟩ := exact
      have cut : cutNumeral (value < 0) (naturalText value.natAbs ++ rest) =
          ⟨.number (.ok (.integer value)), rest⟩ := by
        rw [cutNumeral_naturalText _ value.natAbs delimits, value_naturalText _ (by omega),
          wholeValue_natAbs least]
      rw [Number.text, integerText]
      by_cases negative : value < 0
      · rw [if_pos negative, List.cons_append]
        refine tokens_of_cut (by decide) ?_
        rw [decide_eq_true negative] at cut
        exact cut
      · rw [if_neg negative]
        rw [decide_eq_false negative] at cut
        cases digits : naturalText value.natAbs with
        | nil => exact absurd digits Nat.toDigits_ne_nil
        | cons digit others =>
            have isDigit : digit.isDigit = true :=
              isDigit_of_mem_naturalText (digits ▸ List.mem_cons_self)
            rw [digits, List.cons_append] at cut
            exact tokens_of_cut (isSpace_digit isDigit) ((cutToken_digit _ isDigit).trans cut)

end Numbers

end DbSchema.Json
