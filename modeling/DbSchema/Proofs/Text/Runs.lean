import DbSchema.Proofs.Text.Stretches
import Mathlib.Data.List.Chain
import Mathlib.Data.List.Infix

/-!
# Runs of characters

The runs of a text are its longest stretches of characters that are kept. They never touch, so
joining them by a mark that is not kept loses nothing: the joined text has the same runs again, and
no mark in it is at an end or beside another one.
-/

namespace DbSchema.Text

/-- The longest stretches of characters to be kept, in order. -/
def runs (keep : Char → Bool) (text : List Char) : List (List Char) :=
  (text.splitOnP fun character => !keep character).filter fun run => !run.isEmpty

section Runs

variable {keep : Char → Bool} {character next : Char} {run text : List Char}

@[simp] theorem runs_nil : runs keep [] = [] := rfl

/-- No run goes across a character that is not kept. -/
theorem runs_append_cons (left right : List Char) (dropped : keep character = false) :
    runs keep (left ++ character :: right) = runs keep left ++ runs keep right := by
  rw [runs, List.splitOnP_append_cons _ _ (by simp [dropped]), List.filter_append]
  rfl

/-- A character that is not kept adds nothing to the runs behind it. -/
theorem runs_cons_of_dropped (dropped : keep character = false) :
    runs keep (character :: text) = runs keep text := by
  simpa using runs_append_cons [] text dropped

/-- Characters that are all kept are one run. -/
theorem runs_of_kept (nonempty : run ≠ []) (kept : ∀ character ∈ run, keep character = true) :
    runs keep run = [run] := by
  have whole : run.splitOnP (fun character => !keep character) = [run] :=
    List.splitOnP_eq_singleton fun character member => by simp [kept character member]
  simp [runs, whole, nonempty]

/-- A character in front of a run makes it longer. -/
theorem runs_cons_cons (text : List Char) (kept : keep character = true)
    (keptNext : keep next = true) :
    ∃ run others, runs keep (next :: text) = run :: others
      ∧ runs keep (character :: next :: text) = (character :: run) :: others := by
  simp only [runs, List.splitOnP_cons_eq_if_modifyHead, kept, keptNext, Bool.not_true,
    Bool.false_eq_true, ↓reduceIte]
  cases stretches : text.splitOnP fun character => !keep character with
  | nil => exact absurd stretches (List.splitOnP_ne_nil _ _)
  | cons stretch stretches => exact ⟨next :: stretch, _, by simp; rfl, by simp⟩

/-- The runs depend only on which characters of the text are kept. -/
theorem runs_congr {keep' : Char → Bool}
    (same : ∀ character ∈ text, keep character = keep' character) :
    runs keep text = runs keep' text := by
  have stretches : text.splitOnP (fun character => !keep character) =
      text.splitOnP fun character => !keep' character := by
    induction text with
    | nil => rfl
    | cons character text inductionHypothesis =>
        rw [List.splitOnP_cons_eq_if_modifyHead, List.splitOnP_cons_eq_if_modifyHead,
          same character (.head _),
          inductionHypothesis fun other member => same other (.tail _ member)]
  rw [runs, runs, stretches]

/-- Where all characters between the runs stay, other characters may be deleted before the runs are
cut or from the runs themselves. -/
theorem runs_filter {stays : Char → Bool} (text : List Char)
    (between : ∀ character, keep character = false → stays character = true) :
    runs keep (text.filter stays) =
      ((runs keep text).map (List.filter stays)).filter fun run => !run.isEmpty := by
  have stretches : (text.filter stays).splitOnP (fun character => !keep character) =
      (text.splitOnP fun character => !keep character).map (List.filter stays) :=
    splitOnP_filter text fun character separates => between character (by simpa using separates)
  -- A stretch that was empty stays empty, so it does not matter when these are left out.
  have empty (run : List Char) : (!(run.filter stays).isEmpty && !run.isEmpty) =
      !(run.filter stays).isEmpty := by
    cases run <;> simp
  simp only [runs, stretches, List.filter_map, List.filter_filter, Function.comp_def, empty]

/-- Runs are not empty, and all of their characters are kept. -/
theorem kept_of_mem_runs (member : run ∈ runs keep text) :
    run ≠ [] ∧ ∀ character ∈ run, keep character = true := by
  obtain ⟨isStretch, nonempty⟩ := List.mem_filter.1 member
  refine ⟨by simpa using nonempty, fun character inRun => ?_⟩
  simpa using (exists_mem_splitOnP_iff.1 ⟨run, isStretch, inRun⟩).2

end Runs

section Joined

variable {keep : Char → Bool} {mark : Char} {parts : List (List Char)}

/-- Whether a text is made of characters that are kept, with single marks between them. -/
structure IsJoined (keep : Char → Bool) (mark : Char) (text : List Char) : Prop where
  nonempty : text ≠ []
  characters : ∀ character ∈ text, keep character = true ∨ character = mark
  starts : text.head? ≠ some mark
  ends : text.getLast? ≠ some mark
  apart : ¬[mark, mark] <:+: text

/-- Joining runs by a mark that is not kept loses none of them. -/
theorem runs_intercalate (dropped : keep mark = false)
    (kept : ∀ run ∈ parts, run ≠ [] ∧ ∀ character ∈ run, keep character = true) :
    runs keep ([mark].intercalate parts) = parts := by
  induction parts with
  | nil => rfl
  | cons run parts inductionHypothesis =>
      have first := kept run (.head _)
      have behind := inductionHypothesis fun other member => kept other (.tail _ member)
      cases parts with
      | nil => simpa using runs_of_kept first.1 first.2
      | cons next parts =>
          rw [List.intercalate_cons_cons, List.append_assoc, List.singleton_append,
            runs_append_cons _ _ dropped, runs_of_kept first.1 first.2, behind,
            List.singleton_append]

/-- A run stands alone. -/
theorem isJoined_run (dropped : keep mark = false) {run : List Char} (nonempty : run ≠ [])
    (kept : ∀ character ∈ run, keep character = true) : IsJoined keep mark run := by
  have noMark : mark ∉ run := fun inRun => by simp [kept mark inRun] at dropped
  refine ⟨nonempty, fun character member => .inl (kept character member), ?_, ?_, ?_⟩
  · exact fun first => noMark (List.mem_of_head? first)
  · exact fun last => noMark (List.mem_of_getLast? last)
  · exact fun marks => noMark (marks.subset (.head _))

/-- A run stands in front of joined runs, with a mark between them. -/
theorem IsJoined.cons {run rest : List Char} (joined : IsJoined keep mark rest)
    (first : IsJoined keep mark run) (noMark : mark ∉ run) :
    IsJoined keep mark (run ++ mark :: rest) where
  nonempty := by simp
  characters := by
    simp only [List.forall_mem_append, List.forall_mem_cons]
    exact ⟨first.characters, .inr trivial, joined.characters⟩
  starts := by
    rw [List.head?_append_of_ne_nil _ first.nonempty]
    exact first.starts
  ends := by
    rw [List.getLast?_append_cons, List.getLast?_cons_of_ne_nil joined.nonempty]
    exact joined.ends
  apart := by
    -- Both marks would be in the run, or the second one would start the rest.
    rintro ⟨before, after, split⟩
    rw [List.append_assoc] at split
    rcases List.append_eq_append_iff.1 split with ⟨front, same, behind⟩ | ⟨back, same, behind⟩
    · cases front with
      | nil => exact joined.starts (by simp [(List.cons.inj behind).2.symm])
      | cons character front => exact noMark (by simp [same, (List.cons.inj behind).1])
    · cases back with
      | nil => exact joined.starts (by simp [(List.cons.inj behind).2])
      | cons character back => exact joined.apart ⟨back, after, by simp [(List.cons.inj behind).2]⟩

/-- Runs joined by a mark that is not kept have single marks, and only between them. -/
theorem isJoined_intercalate (dropped : keep mark = false) (nonempty : parts ≠ [])
    (kept : ∀ run ∈ parts, run ≠ [] ∧ ∀ character ∈ run, keep character = true) :
    IsJoined keep mark ([mark].intercalate parts) := by
  induction parts with
  | nil => exact absurd rfl nonempty
  | cons run parts inductionHypothesis =>
      have isRun := kept run (.head _)
      have first : IsJoined keep mark run := isJoined_run dropped isRun.1 isRun.2
      cases parts with
      | nil => simpa using first
      | cons next parts =>
          have behind := inductionHypothesis (List.cons_ne_nil _ _)
            fun other member => kept other (.tail _ member)
          have noMark : mark ∉ run := fun inRun => by simp [isRun.2 mark inRun] at dropped
          rw [List.intercalate_cons_cons, List.append_assoc, List.singleton_append]
          exact behind.cons first noMark

/-- Behind the first mark of joined runs there are joined runs again, and a run is in front of it.
-/
theorem IsJoined.of_append_cons {run rest : List Char} (noMark : mark ∉ run)
    (joined : IsJoined keep mark (run ++ mark :: rest)) :
    (run ≠ [] ∧ ∀ character ∈ run, keep character = true) ∧ IsJoined keep mark rest := by
  have known := List.forall_mem_append.1 joined.characters
  have nonempty : rest ≠ [] := by
    rintro rfl
    exact joined.ends (by simp)
  refine ⟨⟨?_, fun character member => ?_⟩, nonempty, (List.forall_mem_cons.1 known.2).2,
    ?_, ?_, ?_⟩
  · rintro rfl
    exact joined.starts rfl
  · exact (known.1 character member).resolve_right fun same => noMark (same ▸ member)
  · intro first
    obtain ⟨others, rfl⟩ := List.head?_eq_some_iff.1 first
    exact joined.apart ⟨run, others, by simp⟩
  · have last := joined.ends
    rwa [List.getLast?_append_cons, List.getLast?_cons_of_ne_nil nonempty] at last
  · exact fun marks => joined.apart (marks.trans ⟨run ++ [mark], [], by simp⟩)

/-- What stands between the marks of joined runs are these runs. -/
theorem IsJoined.kept_of_intercalate (noMark : ∀ run ∈ parts, mark ∉ run)
    (joined : IsJoined keep mark ([mark].intercalate parts)) :
    ∀ run ∈ parts, run ≠ [] ∧ ∀ character ∈ run, keep character = true := by
  induction parts with
  | nil => simp
  | cons run parts inductionHypothesis =>
      obtain ⟨here, behind⟩ := List.forall_mem_cons.1 noMark
      cases parts with
      | nil =>
          rw [List.intercalate_singleton] at joined
          refine List.forall_mem_singleton.2 ⟨joined.nonempty, fun character member => ?_⟩
          exact (joined.characters character member).resolve_right fun same => here (same ▸ member)
      | cons next parts =>
          rw [List.intercalate_cons_cons, List.append_assoc, List.singleton_append] at joined
          obtain ⟨isRun, rest⟩ := joined.of_append_cons here
          exact List.forall_mem_cons.2 ⟨isRun, inductionHypothesis behind rest⟩

/-- Joined runs are their runs with a mark between each two. -/
theorem IsJoined.intercalate_runs {text : List Char} (dropped : keep mark = false)
    (joined : IsJoined keep mark text) : [mark].intercalate (runs keep text) = text := by
  have whole : [mark].intercalate (text.splitOn mark) = text := List.intercalate_splitOn mark
  have noMark : ∀ run ∈ text.splitOn mark, mark ∉ run := fun run member inRun => by
    simpa using (exists_mem_splitOnP_iff.1 ⟨run, member, inRun⟩).2
  rw [← whole] at joined
  have parts := runs_intercalate dropped (joined.kept_of_intercalate noMark)
  rw [whole] at parts
  rw [parts, whole]

/-- Runs of a text joined by a mark have single marks, and only between them. -/
theorem isJoined_runs {text : List Char} (dropped : keep mark = false)
    (nonempty : runs keep text ≠ []) : IsJoined keep mark ([mark].intercalate (runs keep text)) :=
  isJoined_intercalate dropped nonempty fun _ => kept_of_mem_runs

end Joined

end DbSchema.Text
