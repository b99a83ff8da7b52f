import DbSchema.Text.Case

/-!
# Texts in lower case

No capital letter of ASCII is left in a text in lower case: its own letters are turned into small
ones, and no letter outside ASCII has a capital letter of ASCII for its counterpart. A text of small
letters, digits and other characters of ASCII is its own lower case.
-/

namespace DbSchema.Text

/-- What holds of every code of ASCII holds of every character of ASCII. -/
theorem forall_ascii {motive : Char → Prop} (codes : ∀ code < 0x80, motive (Char.ofNat code))
    {character : Char} (ascii : character.toNat < 0x80) : motive character := by
  rw [← Char.ofNat_toNat character]
  exact codes character.toNat ascii

section Capitals

/-- A character is a capital letter of ASCII exactly when its code is that of one. -/
theorem isUpper_iff {character : Char} :
    character.isUpper = true ↔ 65 ≤ character.toNat ∧ character.toNat ≤ 90 := by
  unfold Char.isUpper
  rw [decide_eq_true_iff, ge_iff_le, UInt32.le_iff_toNat_le, UInt32.le_iff_toNat_le]
  exact Iff.rfl

/-- A code is that of its character, or it has none. -/
theorem toNat_ofNat_eq_or_eq_zero (code : Nat) :
    (Char.ofNat code).toNat = code ∨ (Char.ofNat code).toNat = 0 := by
  by_cases valid : code.isValidChar
  · have character : Char.ofNat code = Char.ofNatAux code valid := dif_pos valid
    exact .inl (congrArg Char.toNat character)
  · have character : Char.ofNat code = '\x00' := dif_neg valid
    exact .inr (congrArg Char.toNat character)

/-- Every run of letters has its counterparts behind the capital letters of ASCII. -/
theorem lowerRuns_behind_capitals :
    ∀ run ∈ lowerRuns, 90 < Int.ofNat run.first + run.distance := by
  decide +kernel

/-- No expansion has capital letters of ASCII. -/
theorem lowerExpansions_behind_capitals :
    ∀ expansion ∈ lowerExpansions, ∀ code ∈ expansion.2, 90 < code := by
  decide +kernel

/-- The counterparts of a code behind the capital letters of ASCII are behind them. -/
theorem lt_of_mem_counterparts {code counterpart : Nat} (behind : 90 < code)
    (member : counterpart ∈ counterparts lowerExpansions lowerRuns code) : 90 < counterpart := by
  unfold counterparts at member
  split at member
  case h_1 codes found =>
    obtain ⟨expansion, inTable, rfl⟩ : ∃ expansion ∈ lowerExpansions, expansion.2 = codes := by
      obtain ⟨before, after, split, -⟩ := List.lookup_eq_some_iff.1 found
      exact ⟨(code, codes), by simp [split], rfl⟩
    exact lowerExpansions_behind_capitals expansion inTable counterpart member
  case h_2 =>
    split at member
    case h_1 run found =>
      have covers := List.find?_some found
      simp only [LetterRun.covers, Bool.and_eq_true, decide_eq_true_eq] at covers
      have moved := lowerRuns_behind_capitals run (List.mem_of_find?_eq_some found)
      have first : Int.ofNat run.first ≤ Int.ofNat code := Int.ofNat_le.2 covers.1.1
      obtain rfl := List.mem_singleton.1 member
      omega
    case h_2 =>
      obtain rfl := List.mem_singleton.1 member
      exact behind

/-- The lower case form of a character has no capital letter of ASCII. -/
theorem isUpper_of_mem_lowerChar {character lower : Char} (member : lower ∈ lowerChar character) :
    lower.isUpper = false := by
  unfold lowerChar at member
  split at member
  case isTrue ascii =>
    obtain rfl := List.mem_singleton.1 member
    exact forall_ascii (motive := fun character => character.toLower.isUpper = false) (by decide)
      ascii
  case isFalse outside =>
    obtain ⟨code, isCounterpart, rfl⟩ := List.mem_map.1 member
    have behind := lt_of_mem_counterparts (by omega) isCounterpart
    rw [Bool.eq_false_iff, Ne, isUpper_iff]
    rcases toNat_ofNat_eq_or_eq_zero code with same | none <;> omega

/-- A text in lower case has no capital letter of ASCII. -/
theorem isUpper_of_mem_toLower {text : String} {character : Char}
    (member : character ∈ (toLower text).toList) : character.isUpper = false := by
  have small (before characters : List Char) (member : character ∈ lowerAfter before characters) :
      character.isUpper = false := by
    induction characters generalizing before with
    | nil => simp [lowerAfter] at member
    | cons first rest inductionHypothesis =>
        rw [lowerAfter, List.mem_append] at member
        rcases member with here | behind
        · split at here
          · -- A capital sigma becomes one of the two small ones.
            split at here <;> obtain rfl := List.mem_singleton.1 here <;> decide
          · exact isUpper_of_mem_lowerChar here
        · exact inductionHypothesis _ behind
  rw [toLower, String.toList_ofList] at member
  exact small _ _ member

end Capitals

/-- A text of ASCII characters that are no capital letters is its own lower case. -/
theorem toLower_eq_self {text : String}
    (small : ∀ character ∈ text.toList, character.toNat < 0x80 ∧ character.isUpper = false) :
    toLower text = text := by
  have same (before characters : List Char)
      (small : ∀ character ∈ characters, character.toNat < 0x80 ∧ character.isUpper = false) :
      lowerAfter before characters = characters := by
    induction characters generalizing before with
    | nil => rfl
    | cons first rest inductionHypothesis =>
        obtain ⟨ascii, noCapital⟩ := small first (.head _)
        have noSigma : first ≠ 'Σ' := by
          rintro rfl
          exact absurd ascii (by decide)
        have lower : lowerChar first = [first] := by
          have own : first.isUpper = false → first.toLower = first :=
            forall_ascii
              (motive := fun character => character.isUpper = false → character.toLower = character)
              (by decide) ascii
          rw [lowerChar, if_pos ascii, own noCapital]
        rw [lowerAfter, if_neg noSigma, lower, List.singleton_append,
          inductionHypothesis _ fun other member => small other (.tail _ member)]
  rw [toLower, same [] text.toList small, String.ofList_toList]

end DbSchema.Text
