import DbSchema.Proofs.Sql.Lexer
import DbSchema.Sql.Routine
import Mathlib.Data.Finset.Card

/-!
# Tags around bodies

`bodyTag_absent` says that the tag chosen for a body does not occur in it. The choice tries one
candidate more than the body has characters. Two candidates never occur at the same place, because
the dollar tag at the start of a text is unique, so that not all of them can occur.
-/

namespace DbSchema.Sql

/-- The digits in a candidate for a tag. -/
def candidateDigits : Nat → List Char
  | 0 => []
  | index + 1 => naturalText (index + 1)

/-- The characters of a candidate. -/
theorem toList_tagCandidate (index : Nat) :
    (tagCandidate index).toList =
      '$' :: ('b' :: 'o' :: 'd' :: 'y' :: candidateDigits index ++ ['$']) := by
  cases index <;> simp [tagCandidate, candidateDigits]

/-- Candidates are made of decimal digits behind their letters. -/
theorem isDigit_of_mem_candidateDigits {index : Nat} {digit : Char}
    (member : digit ∈ candidateDigits index) : digit.isDigit = true := by
  cases index with
  | zero => simp [candidateDigits] at member
  | succ index => exact isDigit_of_mem_naturalText member

/-- Different candidates have different digits. -/
theorem candidateDigits_injective : Function.Injective candidateDigits := by
  have value (index : Nat) : Nat.ofDigitChars 10 (candidateDigits index) 0 = index := by
    cases index with
    | zero => rfl
    | succ index => exact Nat.ofDigitChars_ten_toDigits
  intro first second same
  rw [← value first, ← value second, same]

/-- Every candidate is a dollar tag. -/
theorem isDollarTag_tagCandidate (index : Nat) : IsDollarTag (tagCandidate index).toList := by
  refine ⟨_, toList_tagCandidate index, ?_, rfl⟩
  intro character member
  simp only [List.mem_cons] at member
  rcases member with rfl | rfl | rfl | rfl | member
  case inr.inr.inr.inr =>
    simp [isTagCharacter, Char.isAlphanum, isDigit_of_mem_candidateDigits member]
  all_goals decide

/-- Two dollar tags at the start of one text are the same. -/
theorem IsDollarTag.unique {first second text : List Char} (isFirst : IsDollarTag first)
    (isSecond : IsDollarTag second) (startsFirst : first <+: text)
    (startsSecond : second <+: text) : first = second := by
  obtain ⟨restFirst, rfl⟩ := startsFirst
  obtain ⟨restSecond, same⟩ := startsSecond
  have found := dollarTag?_append isFirst restFirst
  rw [← same, dollarTag?_append isSecond restSecond] at found
  exact (Option.some.inj found).symm

/-- What occurs in a text starts at one of its positions. -/
theorem exists_position_of_infix {part text : List Char} (nonempty : part ≠ [])
    (occurs : part <:+: text) : ∃ position < text.length, part <+: text.drop position := by
  obtain ⟨before, after, rfl⟩ := occurs
  refine ⟨before.length, ?_, after, by simp⟩
  have := List.length_pos_iff.2 nonempty
  simp only [List.length_append]
  omega

/-- Of as many candidates as a text has characters and one more, one does not occur in it. -/
theorem exists_absent_candidate (text : List Char) :
    ∃ index ≤ text.length, ¬(tagCandidate index).toList <:+: text := by
  by_contra all
  push Not at all
  have starts (index : Nat) (bound : index ≤ text.length) :
      ∃ position < text.length, (tagCandidate index).toList <+: text.drop position :=
    exists_position_of_infix (by simp [toList_tagCandidate]) (all index bound)
  choose! position below starting using starts
  -- More candidates than positions, so that two of them would start at one position.
  obtain ⟨first, firstBound, second, secondBound, different, same⟩ :=
    Finset.exists_ne_map_eq_of_card_lt_of_maps_to (s := Finset.range (text.length + 1))
      (t := Finset.range text.length) (f := position) (by simp)
      (fun index bound => by
        have := below index (by simpa [Nat.lt_succ_iff] using bound)
        simpa using this)
  rw [Finset.mem_range, Nat.lt_succ_iff] at firstBound secondBound
  have equal := (isDollarTag_tagCandidate first).unique (isDollarTag_tagCandidate second)
    (starting first firstBound) (same ▸ starting second secondBound)
  rw [toList_tagCandidate, toList_tagCandidate] at equal
  exact different (candidateDigits_injective (by simpa using equal))

/-- The tag of a body is two dollar signs or a candidate. -/
theorem isDollarTag_bodyTag (body : String) : IsDollarTag (bodyTag body).toList := by
  have dollars : IsDollarTag "$$".toList := ⟨[], by decide, by simp, rfl⟩
  unfold bodyTag
  split
  · dsimp only
    cases found : ((List.range (body.length + 1)).map tagCandidate).find?
        fun tag => !Text.occursIn tag body with
    | none => exact dollars
    | some tag =>
        obtain ⟨index, -, rfl⟩ := List.mem_map.1 (List.mem_of_find?_eq_some found)
        exact isDollarTag_tagCandidate index
  · exact dollars

/-- The tag of a body does not occur in it. -/
theorem bodyTag_absent (body : String) : ¬(bodyTag body).toList <:+: body.toList := by
  unfold bodyTag
  split
  case isFalse absent => rwa [Text.occursIn, Text.occurs_iff] at absent
  case isTrue =>
    obtain ⟨index, bound, absent⟩ := exists_absent_candidate body.toList
    have candidate : tagCandidate index ∈ (List.range (body.length + 1)).map tagCandidate := by
      refine List.mem_map.2 ⟨index, ?_, rfl⟩
      rw [List.mem_range, Nat.lt_succ_iff, ← String.length_toList]
      exact bound
    dsimp only
    cases found : ((List.range (body.length + 1)).map tagCandidate).find?
        fun tag => !Text.occursIn tag body with
    | none =>
        have occurs := List.find?_eq_none.1 found _ candidate
        simp [Text.occursIn, Text.occurs_iff, absent] at occurs
    | some tag =>
        have chosen := List.find?_some found
        simpa [Text.occursIn, ← Text.occurs_iff] using chosen

end DbSchema.Sql
