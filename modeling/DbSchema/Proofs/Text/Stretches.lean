import DbSchema.Text.Blank

/-!
# The characters of cut and joined texts

Cutting a text at separators keeps its other characters and no more, and so does taking its words.
Joining texts keeps their characters and adds none but those of the separator. What is deleted
beside the separators may be deleted before or behind the cut.
-/

namespace DbSchema.Text

/-- An element is in a stretch between separators exactly when it is in the list and separates
nothing. -/
theorem exists_mem_splitOnP_iff {α : Type} {separates : α → Bool} {list : List α} {element : α} :
    (∃ stretch ∈ list.splitOnP separates, element ∈ stretch) ↔
      element ∈ list ∧ separates element = false := by
  induction list with
  | nil => simp
  | cons first list inductionHypothesis =>
      rw [List.splitOnP_cons_eq_if_modifyHead]
      split
      case isTrue separator =>
        have other : element = first → separates element = true := fun same => same ▸ separator
        simp only [List.mem_cons, exists_eq_or_imp, List.not_mem_nil, false_or,
          inductionHypothesis]
        grind
      case isFalse kept =>
        cases stretches : list.splitOnP separates with
        | nil => exact absurd stretches (List.splitOnP_ne_nil _ _)
        | cons stretch stretches =>
            simp only [stretches, List.mem_cons, exists_eq_or_imp] at inductionHypothesis
            simp only [List.modifyHead_cons, List.mem_cons, exists_eq_or_imp]
            grind

/-- Where the separators stay, it does not matter whether other elements are deleted before the list
is cut or behind that. -/
theorem splitOnP_filter {α : Type} {separates stays : α → Bool} (list : List α)
    (between : ∀ element, separates element = true → stays element = true) :
    (list.filter stays).splitOnP separates = (list.splitOnP separates).map (List.filter stays) := by
  induction list with
  | nil => rfl
  | cons element list inductionHypothesis =>
      rw [List.splitOnP_cons_eq_if_modifyHead]
      split
      case isTrue separator =>
        rw [List.filter_cons_of_pos (between element separator),
          List.splitOnP_cons_eq_if_modifyHead, if_pos separator, inductionHypothesis]
        rfl
      case isFalse inside =>
        cases stretches : list.splitOnP separates with
        | nil => exact absurd stretches (List.splitOnP_ne_nil _ _)
        | cons stretch stretches =>
            rw [stretches] at inductionHypothesis
            cases here : stays element <;>
              simp [here, inside, inductionHypothesis, List.splitOnP_cons_eq_if_modifyHead]

/-- No stretch between line feeds has a line feed in it. -/
theorem not_mem_of_mem_splitOn {text stretch : List Char} (member : stretch ∈ text.splitOn '\n') :
    '\n' ∉ stretch := by
  intro inStretch
  have kept := (exists_mem_splitOnP_iff.1 ⟨stretch, member, inStretch⟩).2
  simp at kept

/-- Where no text has the separator in it, texts that are ended by separators are cut at these, and
what follows them is cut for itself. -/
theorem splitOn_flatMap_append {separator : Char} {texts : List (List Char)} (rest : List Char)
    (whole : ∀ text ∈ texts, separator ∉ text) :
    (texts.flatMap (· ++ [separator]) ++ rest).splitOn separator =
      texts ++ rest.splitOn separator := by
  induction texts with
  | nil => rfl
  | cons text texts inductionHypothesis =>
      have behind := inductionHypothesis fun other member => whole other (.tail _ member)
      rw [List.flatMap_cons, List.append_assoc, List.append_assoc, List.singleton_append,
        List.splitOn_append_cons_self_of_not_mem (whole text (.head _)), behind, List.cons_append]

/-- No letter, digit or underscore is blank. -/
theorem isBlank_of_isAlphanum {character : Char}
    (kind : character.isAlphanum = true ∨ character = '_') : isBlank character = false := by
  have codes : (48 ≤ character.toNat ∧ character.toNat ≤ 122) ∨ character = '_' := by
    unfold Char.isAlphanum Char.isAlpha Char.isUpper Char.isLower Char.isDigit at kind
    simp only [Bool.or_eq_true, Bool.and_eq_true, decide_eq_true_eq, ge_iff_le,
      UInt32.le_iff_toNat_le] at kind
    simp only [Char.toNat]
    grind
  rcases codes with ⟨lower, upper⟩ | rfl
  · simp only [isBlank, Bool.or_eq_false_iff, Bool.and_eq_false_iff, decide_eq_false_iff_not,
      beq_eq_false_iff_ne]
    omega
  · decide

/-- A character is in a word exactly when it is in the text and not blank. -/
theorem exists_mem_words_iff {text : List Char} {character : Char} :
    (∃ word ∈ words text, character ∈ word) ↔ character ∈ text ∧ isBlank character = false := by
  rw [← exists_mem_splitOnP_iff]
  constructor
  · rintro ⟨word, member, inWord⟩
    exact ⟨word, (List.mem_filter.1 member).1, inWord⟩
  · rintro ⟨stretch, member, inStretch⟩
    refine ⟨stretch, List.mem_filter.2 ⟨member, ?_⟩, inStretch⟩
    simp [List.ne_nil_of_mem inStretch]

/-- A character of joined texts is in one of them or in the separator. -/
theorem mem_or_exists_of_mem_intercalate {separator : List Char} {texts : List (List Char)}
    {character : Char} (member : character ∈ separator.intercalate texts) :
    character ∈ separator ∨ ∃ text ∈ texts, character ∈ text := by
  induction texts with
  | nil => simp at member
  | cons text texts inductionHypothesis =>
      cases texts with
      | nil => exact .inr ⟨text, by simp, by simpa using member⟩
      | cons next texts =>
          rw [List.intercalate_cons_cons, List.mem_append, List.mem_append] at member
          rcases member with (inText | inSeparator) | behind
          · exact .inr ⟨text, by simp, inText⟩
          · exact .inl inSeparator
          · rcases inductionHypothesis behind with inSeparator | ⟨other, inTexts, inOther⟩
            · exact .inl inSeparator
            · exact .inr ⟨other, List.mem_cons_of_mem _ inTexts, inOther⟩

/-- Every character of a text is kept when it is joined with others. -/
theorem mem_intercalate_of_mem {separator text : List Char} {texts : List (List Char)}
    {character : Char} (inTexts : text ∈ texts) (inText : character ∈ text) :
    character ∈ separator.intercalate texts := by
  induction texts with
  | nil => simp at inTexts
  | cons first texts inductionHypothesis =>
      cases texts with
      | nil =>
          obtain rfl := List.mem_singleton.1 inTexts
          simpa using inText
      | cons next texts =>
          rw [List.intercalate_cons_cons, List.mem_append, List.mem_append]
          rcases List.mem_cons.1 inTexts with rfl | behind
          · exact .inl (.inl inText)
          · exact .inr (inductionHypothesis behind)

end DbSchema.Text
