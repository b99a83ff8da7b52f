import DbSchema.Proofs.Diagram.Naming
import DbSchema.Proofs.Text.Runs

/-!
# Labels have one form

A label is made by deleting characters before the rest is cut into words. `labels_are_canonical`
says that the other way round comes to the same, wherever blanks and deleted characters meet: the
words of the text itself, each without the characters that may not stand in an identifier, as far as
something is left of them. So a label is tidy, and a text that is tidy is its own label.
-/

namespace DbSchema.Diagram

/-- The words of a text without the characters that may not stand in an identifier. Words of which
nothing is left do not count. -/
def captionWords (text : List Char) : List (List Char) :=
  ((Text.words text).map (List.filter isIdentifierChar)).filter fun word => !word.isEmpty

/-- Whether a text has only characters of identifiers, in words with single spaces between them and
none at an end. The empty text has no words. -/
def IsTidy (text : String) : Prop :=
  text = "" ∨ Text.IsJoined isIdentifierChar ' ' text.toList

section Words

variable {text : List Char}

/-- Words are the runs of characters that are not blank. -/
theorem words_eq_runs (text : List Char) :
    Text.words text = Text.runs (fun character => !Text.isBlank character) text := by
  simp [Text.words, Text.runs]

/-- Every character of a word of a label may stand in an identifier, and comes from the text. -/
theorem of_mem_captionWords {word : List Char} (member : word ∈ captionWords text) :
    word ≠ [] ∧ ∀ character ∈ word, isIdentifierChar character = true ∧ character ∈ text := by
  obtain ⟨isWord, nonempty⟩ := List.mem_filter.1 member
  obtain ⟨whole, inText, rfl⟩ := List.mem_map.1 isWord
  refine ⟨by simpa using nonempty, fun character inWord => ?_⟩
  obtain ⟨inWhole, kind⟩ := List.mem_filter.1 inWord
  exact ⟨kind, (Text.exists_mem_words_iff.1 ⟨whole, inText, inWhole⟩).1⟩

/-- Deleting characters before a text is cut into words, and blanks not, leaves the words of its
label. -/
theorem words_filter (text : List Char) :
    Text.words (text.filter fun character => isIdentifierChar character || Text.isBlank character) =
      captionWords text := by
  -- In a word, where nothing is blank, the characters that stay are those of identifiers.
  have within : (Text.words text).map (List.filter fun character =>
      isIdentifierChar character || Text.isBlank character) =
        (Text.words text).map (List.filter isIdentifierChar) := by
    refine List.map_congr_left fun word inText => List.filter_congr fun character inWord => ?_
    rw [(Text.exists_mem_words_iff.1 ⟨word, inText, inWord⟩).2, Bool.or_false]
  rw [captionWords, ← within, words_eq_runs, words_eq_runs]
  refine Text.runs_filter text fun character blank => ?_
  have isBlank : Text.isBlank character = true := by simpa using blank
  rw [isBlank, Bool.or_true]

/-- Where all characters may stand in identifiers or are spaces, the words of the label are the runs
of characters of identifiers. -/
theorem captionWords_eq_runs
    (known : ∀ character ∈ text, isIdentifierChar character = true ∨ character = ' ') :
    captionWords text = Text.runs isIdentifierChar text := by
  have stays : (text.filter fun character =>
      isIdentifierChar character || Text.isBlank character) = text := by
    refine List.filter_eq_self.2 fun character member => ?_
    rcases known character member with kind | rfl
    · rw [kind, Bool.true_or]
    · decide
  rw [← words_filter, stays, words_eq_runs]
  refine Text.runs_congr fun character member => ?_
  rcases known character member with kind | rfl
  · rw [kind, isBlank_of_isIdentifierChar kind, Bool.not_false]
  · decide

end Words

section Labels

/-- A label is the words of its text with single spaces between them. -/
theorem toList_label_eq (text : String) :
    (label text).toList = [' '].intercalate (captionWords text.toList) := by
  rw [toList_label, words_filter]

/-- The words of a label have single spaces between them, and none at an end. -/
theorem isJoined_captionWords {text : List Char} (nonempty : captionWords text ≠ []) :
    Text.IsJoined isIdentifierChar ' ' ([' '].intercalate (captionWords text)) :=
  Text.isJoined_intercalate (by decide) nonempty fun _ member =>
    (of_mem_captionWords member).imp_right fun kinds character inWord => (kinds character inWord).1

/-- A label without words is empty, and no other one is. -/
theorem label_eq_empty_iff_captionWords {text : String} :
    label text = "" ↔ captionWords text.toList = [] := by
  rw [← String.toList_eq_nil_iff, toList_label_eq]
  refine ⟨fun empty => ?_, fun none => by rw [none]; rfl⟩
  by_contra nonempty
  exact (isJoined_captionWords nonempty).nonempty empty

/-- Every label is tidy. -/
theorem isTidy_label (text : String) : IsTidy (label text) := by
  by_cases none : captionWords text.toList = []
  · exact .inl (label_eq_empty_iff_captionWords.2 none)
  · exact .inr (toList_label_eq text ▸ isJoined_captionWords none)

/-- A tidy text is its own label. -/
theorem label_of_isTidy {text : String} (tidy : IsTidy text) : label text = text := by
  rcases tidy with rfl | joined
  · decide
  · rw [← String.toList_inj, toList_label_eq, captionWords_eq_runs joined.characters]
    exact joined.intercalate_runs (by decide)

/-- Nothing is left of a text exactly when none of its characters may stand in an identifier. -/
theorem label_eq_empty_iff {text : String} :
    label text = "" ↔ ∀ character ∈ text.toList, isIdentifierChar character = false := by
  constructor
  · intro empty character member
    rw [Bool.eq_false_iff]
    intro kind
    exact (isCaption_label member kind).nonempty empty
  · intro deleted
    rw [label_eq_empty_iff_captionWords, List.eq_nil_iff_forall_not_mem]
    intro word member
    obtain ⟨nonempty, kinds⟩ := of_mem_captionWords member
    obtain ⟨character, inWord⟩ := List.exists_mem_of_ne_nil word nonempty
    obtain ⟨kind, inText⟩ := kinds character inWord
    simp [deleted character inText] at kind

end Labels

/-- A label is the words of its text, each without the characters that may not stand in an
identifier, as far as something is left of them, with single spaces between them. It has no space at
an end and no two in a row, just such texts are their own labels, so that the label of a label is
the same, and it is empty exactly when nothing in the text may stand in an identifier. No
relationship has an empty label. -/
theorem labels_are_canonical :
    (∀ text,
      (label text).toList = [' '].intercalate (captionWords text.toList)
        ∧ IsTidy (label text)
        ∧ (label text = text ↔ IsTidy text)
        ∧ label (label text) = label text
        ∧ (label text = "" ↔ ∀ character ∈ text.toList, isIdentifierChar character = false))
      ∧ ∀ relationship, IsTidy (labelOf relationship) ∧ labelOf relationship ≠ "" := by
  refine ⟨fun text => ⟨toList_label_eq text, isTidy_label text, ?_,
    label_of_isTidy (isTidy_label text), label_eq_empty_iff⟩, fun relationship => ⟨?_, ?_⟩⟩
  · refine ⟨fun same => ?_, label_of_isTidy⟩
    rw [← same]
    exact isTidy_label text
  · unfold labelOf
    dsimp only
    split <;> exact isTidy_label _
  · exact (isCaption_labelOf relationship).nonempty

/-- Deleted characters beside blanks leave no blank, and a word made of them leaves nothing. -/
example : label " user's\u00a0?! \u2003(orders)\u2009 " = "users orders" := by
  decide

end DbSchema.Diagram
