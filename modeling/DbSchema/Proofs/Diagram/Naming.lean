import DbSchema.Diagram.Basic
import DbSchema.Proofs.Text.Stretches

/-!
# Which names and labels diagrams have

Whatever a name is in a schema, its identifier in a diagram is not empty and has only letters,
digits and underscores. A label has these and spaces, and it keeps every such character of its text;
so a link, whose label is made of more than its name when nothing is left of the name, is never
without one.
-/

namespace DbSchema.Diagram

/-- Whether a text may stand in a diagram as a name. -/
structure IsName (text : String) : Prop where
  nonempty : text ≠ ""
  characters : ∀ character ∈ text.toList, isIdentifierChar character = true

/-- Whether a text may stand in a diagram between quotes. -/
structure IsCaption (text : String) : Prop where
  nonempty : text ≠ ""
  characters : ∀ character ∈ text.toList, isIdentifierChar character = true ∨ character = ' '

/-- A text that is not empty may stand as a name when all its characters may. -/
theorem isName_of_all {text : String} (nonempty : text ≠ "")
    (all : text.toList.all isIdentifierChar = true) : IsName text :=
  ⟨nonempty, List.all_eq_true.1 all⟩

/-- Every identifier may stand as a name. -/
theorem isName_identifier (name : String) : IsName (identifier name) := by
  unfold identifier
  cases characters : name.toList with
  | nil => exact isName_of_all (by decide) (by decide)
  | cons first rest =>
      refine ⟨fun empty => ?_, fun character member => ?_⟩
      · simpa using congrArg String.toList empty
      · rw [String.toList_ofList] at member
        obtain ⟨known, -, rfl⟩ := List.mem_map.1 member
        split
        · assumption
        · decide

/-- The characters of a label. -/
theorem toList_label (text : String) :
    (label text).toList =
      [' '].intercalate (Text.words (text.toList.filter fun character =>
        isIdentifierChar character || Text.isBlank character)) := by
  rw [label, String.toList_intercalate, List.map_map]
  simp [Function.comp_def]

/-- A label has only characters of identifiers, and spaces. -/
theorem mem_label {text : String} {character : Char} (member : character ∈ (label text).toList) :
    isIdentifierChar character = true ∨ character = ' ' := by
  rw [toList_label] at member
  rcases Text.mem_or_exists_of_mem_intercalate member with space | inWord
  · exact .inr (List.mem_singleton.1 space)
  · obtain ⟨kept, visible⟩ := Text.exists_mem_words_iff.1 inWord
    have kind := (List.mem_filter.1 kept).2
    rw [visible, Bool.or_false] at kind
    exact .inl kind

/-- No character of an identifier is blank. -/
theorem isBlank_of_isIdentifierChar {character : Char}
    (kind : isIdentifierChar character = true) : Text.isBlank character = false :=
  Text.isBlank_of_isAlphanum (by simpa [isIdentifierChar] using kind)

/-- A label keeps the characters of identifiers. -/
theorem mem_label_of_mem {text : String} {character : Char} (member : character ∈ text.toList)
    (kind : isIdentifierChar character = true) : character ∈ (label text).toList := by
  have kept : character ∈ text.toList.filter fun character =>
      isIdentifierChar character || Text.isBlank character :=
    List.mem_filter.2 ⟨member, by simp [kind]⟩
  obtain ⟨word, inWords, inWord⟩ :=
    Text.exists_mem_words_iff.2 ⟨kept, isBlank_of_isIdentifierChar kind⟩
  rw [toList_label]
  exact Text.mem_intercalate_of_mem inWords inWord

/-- The label of a text with a character of identifiers may stand between quotes. -/
theorem isCaption_label {text : String} {character : Char} (member : character ∈ text.toList)
    (kind : isIdentifierChar character = true) : IsCaption (label text) := by
  refine ⟨fun empty => ?_, fun _ => mem_label⟩
  have inLabel := mem_label_of_mem member kind
  simp [empty] at inLabel

/-- The label of a relationship may stand between quotes. -/
theorem isCaption_labelOf (relationship : Relationship) : IsCaption (labelOf relationship) := by
  unfold labelOf
  dsimp only
  split
  case isTrue =>
    have underscore :
        '_' ∈ (relationship.sourceTable ++ "_to_" ++ relationship.targetTable).toList := by
      simp
    exact isCaption_label underscore (by decide)
  case isFalse named => exact ⟨by simpa using named, fun _ => mem_label⟩

end DbSchema.Diagram
