import DbSchema.Proofs.Text.Stretches
import DbSchema.Text.Lines
import Mathlib.Data.List.Induction
import Mathlib.Data.List.TakeWhile

/-!
# Carriage returns that lines keep

Cutting a text into lines takes away the carriage returns that belong to line ends, and no others.
`exists_return_in_lines_iff` says which texts have a line with a carriage return in it, and
`exists_return_in_trimmed_iff` which have one that trimming the lines leaves as well.
-/

namespace DbSchema.Text

/-- Whether a character stands in a text, and what follows it has a property. -/
def StandsBefore (character : Char) (holds : List Char → Prop) (text : List Char) : Prop :=
  ∃ behind, character :: behind <:+ text ∧ holds behind

/-- Whether a text has a carriage return that does not belong to a line end. -/
def HasLoneReturn (text : List Char) : Prop :=
  StandsBefore '\r' (fun behind => behind.head? ≠ some '\n') text

/-- Whether a text has a carriage return with more than blanks behind it on its line. -/
def HasInnerReturn (text : List Char) : Prop :=
  StandsBefore '\r' (fun behind => ∃ other ∈ behind.takeWhile (· != '\n'), isBlank other = false)
    text

section Places

variable {character : Char} {holds : List Char → Prop}

@[simp] theorem standsBefore_nil : ¬StandsBefore character holds [] := by
  rintro ⟨behind, ends, -⟩
  simp at ends

@[simp] theorem standsBefore_cons (first : Char) (rest : List Char) :
    StandsBefore character holds (first :: rest) ↔
      (character = first ∧ holds rest) ∨ StandsBefore character holds rest := by
  simp only [StandsBefore, List.suffix_cons_iff, List.cons.injEq]
  constructor
  · rintro ⟨behind, ⟨rfl, rfl⟩ | ends, held⟩
    · exact .inl ⟨rfl, held⟩
    · exact .inr ⟨behind, ends, held⟩
  · rintro (⟨rfl, held⟩ | ⟨behind, ends, held⟩)
    · exact ⟨rest, .inl ⟨rfl, rfl⟩, held⟩
    · exact ⟨behind, .inr ends, held⟩

instance decidableStandsBefore [DecidablePred holds] :
    (text : List Char) → Decidable (StandsBefore character holds text)
  | [] => .isFalse standsBefore_nil
  | first :: rest =>
    have := decidableStandsBefore rest
    decidable_of_iff' _ (standsBefore_cons first rest)

instance : DecidablePred HasLoneReturn :=
  inferInstanceAs (DecidablePred (StandsBefore '\r' _))

instance : DecidablePred HasInnerReturn :=
  have (behind : List Char) :
      Decidable (∃ other ∈ behind.takeWhile (· != '\n'), isBlank other = false) :=
    List.decidableBEx _ _
  inferInstanceAs (DecidablePred (StandsBefore '\r' _))

/-- A place in two texts in a row is in the first one, and all of the second one follows it, or in
the second one. -/
theorem standsBefore_append (left right : List Char) :
    StandsBefore character holds (left ++ right) ↔
      StandsBefore character (fun behind => holds (behind ++ right)) left
        ∨ StandsBefore character holds right := by
  induction left with
  | nil => simp
  | cons first left inductionHypothesis => simp [inductionHypothesis, or_assoc]

/-- Only what can follow a character in the text matters. -/
theorem standsBefore_congr {text : List Char} {other : List Char → Prop}
    (same : ∀ behind, behind <:+ text → (holds behind ↔ other behind)) :
    StandsBefore character holds text ↔ StandsBefore character other text := by
  refine exists_congr fun behind => and_congr_right fun ends => ?_
  exact same behind ((List.suffix_cons character behind).trans ends)

/-- A character stands in a text when nothing is asked of what follows it. -/
theorem standsBefore_of_always {text : List Char} (always : ∀ behind, holds behind) :
    StandsBefore character holds text ↔ character ∈ text := by
  induction text with
  | nil => simp
  | cons first text inductionHypothesis => simp [inductionHypothesis, always]

/-- A character that is dropped at the end is left exactly where one follows that is not. -/
theorem mem_dropTrailing_iff {drop : Char → Bool} (dropped : drop character = true)
    (text : List Char) :
    character ∈ dropTrailing drop text ↔
      StandsBefore character (fun behind => ∃ other ∈ behind, drop other = false) text := by
  induction text using List.reverseRecOn with
  | nil => simp [dropTrailing]
  | append_singleton text last inductionHypothesis =>
      rw [standsBefore_append]
      cases isLast : drop last with
      | true =>
          rw [dropTrailing_append_dropped text isLast, inductionHypothesis]
          simp [isLast]
      | false =>
          have other : character ≠ last := fun same => by simp [← same, dropped] at isLast
          rw [dropTrailing_append_singleton text isLast, standsBefore_of_always fun behind =>
            ⟨last, by simp, isLast⟩]
          simp [other]

end Places

section LineEnds

/-- The line end takes away a carriage return only from the end of a line. -/
theorem mem_dropCarriageReturn_iff (line : List Char) :
    '\r' ∈ dropCarriageReturn line ↔ StandsBefore '\r' (· ≠ []) line := by
  induction line using List.reverseRecOn with
  | nil => simp [dropCarriageReturn]
  | append_singleton line last _ =>
      rw [standsBefore_append, standsBefore_of_always fun behind => by simp]
      by_cases ends : last = '\r'
      · simp [dropCarriageReturn, ends]
      · simp [dropCarriageReturn, ends, Ne.symm ends]

/-- Trimming a line makes up for what the line end takes away. -/
theorem trimEnd_dropCarriageReturn (line : List Char) :
    trimEnd (' ' :: dropCarriageReturn line) = trimEnd (' ' :: line) := by
  induction line using List.reverseRecOn with
  | nil => rfl
  | append_singleton line last _ =>
      by_cases ends : last = '\r'
      · have blank : isBlank last = true := ends ▸ by decide
        have dropped := dropTrailing_append_dropped (' ' :: line) blank
        simpa [dropCarriageReturn, ends, trimEnd] using dropped.symm
      · simp [dropCarriageReturn, ends]

/-- What a line keeps is found in the text where the line is, if it is known what is found in the
last stretch of a text and in the others, which a line feed follows. -/
theorem exists_mem_linesOfStretches_iff {keeps holds : List Char → Prop}
    {stretches : List (List Char)} (oneLine : ∀ stretch ∈ stretches, '\n' ∉ stretch)
    (last : ∀ stretch, '\n' ∉ stretch → (keeps stretch ↔ StandsBefore '\r' holds stretch))
    (ended : ∀ stretch more, '\n' ∉ stretch → (keeps (dropCarriageReturn stretch) ↔
      StandsBefore '\r' (fun behind => holds (behind ++ '\n' :: more)) stretch)) :
    (∃ line ∈ linesOfStretches stretches, keeps line) ↔
      StandsBefore '\r' holds (['\n'].intercalate stretches) := by
  induction stretches with
  | nil => simp [linesOfStretches]
  | cons stretch stretches inductionHypothesis =>
      have here := oneLine stretch (by simp)
      have behind := inductionHypothesis fun other member => oneLine other (by simp [member])
      cases stretches with
      | nil =>
          cases stretch with
          | nil => simp [linesOfStretches]
          | cons first rest => simpa [linesOfStretches] using last (first :: rest) here
      | cons next stretches =>
          have feed : '\r' ≠ '\n' := by decide
          simp only [linesOfStretches, List.mem_cons, exists_eq_or_imp] at behind ⊢
          rw [behind, List.intercalate_cons_cons, List.append_assoc, List.singleton_append,
            standsBefore_append, standsBefore_cons,
            ended stretch (['\n'].intercalate (next :: stretches)) here]
          simp [feed]

/-- A line of a text has a carriage return in it exactly when the text has one that does not belong
to a line end. -/
theorem exists_return_in_lines_iff (text : String) :
    (∃ line ∈ lines text, '\r' ∈ line.toList) ↔ HasLoneReturn text.toList := by
  have cut : (∃ line ∈ linesOfStretches (text.toList.splitOn '\n'), '\r' ∈ line) ↔
      HasLoneReturn (['\n'].intercalate (text.toList.splitOn '\n')) := by
    refine exists_mem_linesOfStretches_iff (fun _ => not_mem_of_mem_splitOn) ?_ ?_
    · intro stretch oneLine
      have anywhere : StandsBefore '\r' (fun _ => True) stretch ↔ '\r' ∈ stretch :=
        standsBefore_of_always fun _ => trivial
      rw [← anywhere]
      refine standsBefore_congr fun behind ends => iff_of_true trivial fun feed => ?_
      exact oneLine (ends.subset (List.mem_of_head? feed))
    · intro stretch more oneLine
      rw [mem_dropCarriageReturn_iff]
      refine standsBefore_congr fun behind ends => ?_
      cases behind with
      | nil => simp
      | cons first behind =>
          have other : first ≠ '\n' := fun feed => oneLine (ends.subset (by simp [feed]))
          simp [other]
  rw [List.intercalate_splitOn] at cut
  simpa [lines] using cut

/-- A line of a text has a carriage return in it that trimming the line leaves exactly when the text
has one with more than blanks behind it on its line. -/
theorem exists_return_in_trimmed_iff (text : String) :
    (∃ line ∈ lines text, '\r' ∈ trimEnd (' ' :: line.toList)) ↔ HasInnerReturn text.toList := by
  have trimmed (line : List Char) : '\r' ∈ trimEnd (' ' :: line) ↔
      StandsBefore '\r' (fun behind => ∃ other ∈ behind, isBlank other = false) line := by
    rw [trimEnd, mem_dropTrailing_iff (by decide), standsBefore_cons]
    simp
  have cut : (∃ line ∈ linesOfStretches (text.toList.splitOn '\n'),
        '\r' ∈ trimEnd (' ' :: line)) ↔
      HasInnerReturn (['\n'].intercalate (text.toList.splitOn '\n')) := by
    have continues {stretch behind : List Char} (oneLine : '\n' ∉ stretch)
        (ends : behind <:+ stretch) : ∀ other ∈ behind, (other != '\n') = true := by
      intro other member
      simpa using fun feed : other = '\n' => oneLine (ends.subset (feed ▸ member))
    refine exists_mem_linesOfStretches_iff (fun _ => not_mem_of_mem_splitOn) ?_ ?_
    · intro stretch oneLine
      rw [trimmed]
      refine standsBefore_congr fun behind ends => ?_
      rw [List.takeWhile_eq_self_iff.2 (continues oneLine ends)]
    · intro stretch more oneLine
      rw [trimEnd_dropCarriageReturn, trimmed]
      refine standsBefore_congr fun behind ends => ?_
      rw [List.takeWhile_append_of_pos (continues oneLine ends),
        List.takeWhile_cons_of_neg (by decide), List.append_nil]
  rw [List.intercalate_splitOn] at cut
  simpa [lines] using cut

/-- A text on one line has a carriage return in it exactly when the text has one that does not
belong to a line end. -/
theorem return_mem_onOneLine_iff (text : String) :
    '\r' ∈ (onOneLine text).toList ↔ HasLoneReturn text.toList := by
  rw [← exists_return_in_lines_iff, onOneLine, String.toList_intercalate]
  constructor
  · intro member
    rcases mem_or_exists_of_mem_intercalate member with space | ⟨line, inLines, inLine⟩
    · simp at space
    · obtain ⟨line, inText, rfl⟩ := List.mem_map.1 inLines
      exact ⟨line, inText, inLine⟩
  · rintro ⟨line, inText, inLine⟩
    exact mem_intercalate_of_mem (List.mem_map_of_mem inText) inLine

end LineEnds

end DbSchema.Text
