import DbSchema.Export.Storing
import DbSchema.Host.Files
import DbSchema.Proofs.Text.LowerCase
import DbSchema.Proofs.Text.Runs

/-!
# The file names of artifacts

A file name is made in one pass over the name of a schema, which marks every gap between letters and
digits once and cuts off the marks at the ends. `file_names_are_canonical` says what that comes to:
the runs of small letters and digits in the lower case of the name, joined by underscores. Such a
name is safe as the last step of a path, and it is kept when a name is made from it again.
-/

namespace DbSchema.Artifact

/-- Whether a character may stand in a file name for itself: a small letter or a digit of ASCII. -/
def isStemChar (character : Char) : Bool :=
  character.isLower || character.isDigit

/-- The runs of small letters and digits in the lower case of a name. -/
def stemRuns (name : String) : List (List Char) :=
  Text.runs isStemChar (Text.toLower name).toList

/-- The text of a file name without its extension. -/
abbrev IsStem (stem : String) : Prop :=
  Text.IsJoined isStemChar '_' stem.toList

section Gaps

open Text (dropTrailing runs)

/-- Whether a character is the mark of a gap. -/
def isGapMark (character : Char) : Bool :=
  character = '_'

/-- What is left in front of dropped characters, with a character in front. -/
theorem dropTrailing_cons {drop : Char → Bool} (character : Char) (text : List Char) :
    dropTrailing drop (character :: text) =
      if drop character = true ∧ dropTrailing drop text = [] then []
      else character :: dropTrailing drop text := by
  rw [dropTrailing, List.reverse_cons, List.dropWhile_append, dropTrailing]
  cases rest : text.reverse.dropWhile drop with
  | nil => cases dropped : drop character <;> simp [dropped]
  | cons last rest => simp

variable {text : List Char}

/-- No letter or digit is the mark of a gap. -/
theorem isGapMark_of_isAlphanum {letter : Char} (kept : letter.isAlphanum = true) :
    isGapMark letter = false := by
  rw [isGapMark, decide_eq_false_iff_not]
  rintro rfl
  exact absurd kept (by decide)

/-- Behind a gap and behind a letter, what is written without the marks at its end is the runs of
the text with marks between them. -/
theorem dropTrailing_underscored (text : List Char) :
    dropTrailing isGapMark (underscored true text) =
        ['_'].intercalate (runs Char.isAlphanum text)
      ∧ ∀ letter : Char, letter.isAlphanum = true →
        letter :: dropTrailing isGapMark (underscored false text) =
          ['_'].intercalate (runs Char.isAlphanum (letter :: text)) := by
  induction text with
  | nil =>
      refine ⟨rfl, fun letter kept => ?_⟩
      rw [Text.runs_of_kept (by simp) (by simpa using kept)]
      rfl
  | cons character text inductionHypothesis =>
      obtain ⟨behindGap, behindLetter⟩ := inductionHypothesis
      by_cases kept : character.isAlphanum = true
      · have noMark := isGapMark_of_isAlphanum kept
        have written (gap : Bool) : dropTrailing isGapMark (underscored gap (character :: text)) =
            ['_'].intercalate (runs Char.isAlphanum (character :: text)) := by
          rw [underscored, if_pos kept, dropTrailing_cons, if_neg (by simp [noMark]),
            behindLetter character kept]
        refine ⟨written true, fun letter keptLetter => ?_⟩
        obtain ⟨run, others, here, longer⟩ := Text.runs_cons_cons text keptLetter kept
        rw [written, here, longer]
        cases others <;> rfl
      · have dropped : character.isAlphanum = false := by simpa using kept
        refine ⟨?_, fun letter keptLetter => ?_⟩
        · rw [underscored, if_neg kept, if_pos rfl, behindGap, Text.runs_cons_of_dropped dropped]
        · have alone : runs Char.isAlphanum [letter] = [[letter]] :=
            Text.runs_of_kept (by simp) (by simpa using keptLetter)
          have cut : runs Char.isAlphanum (letter :: character :: text) =
              [letter] :: runs Char.isAlphanum text := by
            simpa [alone] using Text.runs_append_cons [letter] text dropped
          rw [underscored, if_neg kept, if_neg (by simp), dropTrailing_cons, behindGap, cut]
          cases behind : runs Char.isAlphanum text with
          | nil => rfl
          | cons run others =>
              have joined : Text.IsJoined Char.isAlphanum '_' (['_'].intercalate (run :: others)) :=
                behind ▸ Text.isJoined_runs (by decide) (by simp [behind])
              rw [if_neg (fun both => joined.nonempty both.2), List.intercalate_cons_cons]
              rfl

/-- At the start of a text, a gap has a mark that is cut off again. -/
theorem dropWhile_underscored (text : List Char) :
    (underscored false text).dropWhile isGapMark = underscored true text := by
  have unmarked (text : List Char) :
      (underscored true text).dropWhile isGapMark = underscored true text := by
    induction text with
    | nil => rfl
    | cons character text inductionHypothesis =>
        by_cases kept : character.isAlphanum = true
        · rw [underscored, if_pos kept,
            List.dropWhile_cons_of_neg (by simp [isGapMark_of_isAlphanum kept])]
        · rw [underscored, if_neg kept, if_pos rfl, inductionHypothesis]
  cases text with
  | nil => rfl
  | cons character text =>
      by_cases kept : character.isAlphanum = true
      · rw [underscored, underscored, if_pos kept, if_pos kept,
          List.dropWhile_cons_of_neg (by simp [isGapMark_of_isAlphanum kept])]
      · rw [underscored, underscored, if_neg kept, if_neg kept, if_neg (by simp), if_pos rfl,
          List.dropWhile_cons_of_pos (by decide), unmarked]

end Gaps

section Stems

open Text (dropTrailing)

/-- In a text in lower case, small letters and digits are all letters and digits that there are. -/
theorem runs_isAlphanum_toLower (name : String) :
    Text.runs Char.isAlphanum (Text.toLower name).toList = stemRuns name := by
  refine Text.runs_congr fun character member => ?_
  have kinds : character.isAlphanum =
      ((character.isUpper || character.isLower) || character.isDigit) := rfl
  simp [kinds, isStemChar, Text.isUpper_of_mem_toLower member]

/-- A file name is the runs of its text with marks between them. -/
theorem fileStem_eq (name : String) :
    fileStem name =
      if stemRuns name = [] then "schema"
      else .ofList (['_'].intercalate (stemRuns name)) := by
  have written : dropTrailing (fun character => decide (character = '_'))
      ((underscored false (Text.toLower name).toList).dropWhile
        fun character => decide (character = '_')) = ['_'].intercalate (stemRuns name) := by
    rw [← runs_isAlphanum_toLower, ← (dropTrailing_underscored _).1, ← dropWhile_underscored]
    rfl
  unfold fileStem
  dsimp only
  rw [written]
  by_cases none : stemRuns name = []
  · rw [if_pos none, none]
    rfl
  · have joined : Text.IsJoined isStemChar '_' (['_'].intercalate (stemRuns name)) :=
      Text.isJoined_runs (by decide) none
    rw [if_neg none]
    cases stem : ['_'].intercalate (stemRuns name) with
    | nil => exact absurd stem joined.nonempty
    | cons first rest => rfl

/-- The characters of a stem are small characters of ASCII. -/
theorem small_of_isStemChar {character : Char}
    (kind : isStemChar character = true ∨ character = '_') :
    character.toNat < 0x80 ∧ character.isUpper = false := by
  rcases kind with kept | rfl
  · unfold isStemChar Char.isLower Char.isDigit at kept
    simp only [Bool.or_eq_true, Bool.and_eq_true, decide_eq_true_eq, ge_iff_le,
      UInt32.le_iff_toNat_le] at kept
    have codes : 48 ≤ character.toNat ∧ character.toNat ≤ 57
        ∨ 97 ≤ character.toNat ∧ character.toNat ≤ 122 := kept.symm
    rw [Bool.eq_false_iff, Ne, Text.isUpper_iff]
    omega
  · decide

/-- Every file name is a stem. -/
theorem isStem_fileStem (name : String) : IsStem (fileStem name) := by
  rw [fileStem_eq]
  split
  case isTrue =>
    exact Text.isJoined_run (by decide) (by decide) (List.all_eq_true.1 (by decide))
  case isFalse some =>
    rw [IsStem, String.toList_ofList]
    exact Text.isJoined_runs (by decide) some

/-- The runs of a stem are those of its own characters. -/
theorem stemRuns_of_isStem {stem : String} (isStem : IsStem stem) :
    stemRuns stem = Text.runs isStemChar stem.toList := by
  rw [stemRuns, Text.toLower_eq_self fun character member =>
    small_of_isStemChar (isStem.characters character member)]

/-- The name that is made from a file name is the same. -/
theorem fileStem_fileStem (name : String) : fileStem (fileStem name) = fileStem name := by
  rw [fileStem_eq (fileStem name), stemRuns_of_isStem (isStem_fileStem name), fileStem_eq name]
  split
  case isTrue => rfl
  case isFalse some =>
    have same : Text.runs isStemChar (String.ofList (['_'].intercalate (stemRuns name))).toList =
        stemRuns name := by
      rw [String.toList_ofList]
      exact Text.runs_intercalate (by decide) fun _ => Text.kept_of_mem_runs
    rw [same, if_neg some]

end Stems

section Places

variable {name : String}

/-- The parts of a path that lead anywhere, by what stands between its slashes. -/
theorem components_of_splitOn (path : String) {first : List Char} {rest : List (List Char)}
    (parts : path.toList.splitOn '/' = first :: rest) :
    Path.components path = (if String.ofList first == "" then [] else [String.ofList first])
      ++ (rest.map String.ofList).filter fun part => part != "" && part != "." := by
  rw [Path.components, Path.parts, parts]
  rfl

/-- A path leads where the characters up to a slash lead, and on by what is behind it. -/
theorem components_append_slash (front : List Char) {rest : List Char} {path : String}
    (split : path.toList = front ++ '/' :: rest) :
    Path.components path = Path.components (.ofList front)
      ++ ((rest.splitOn '/').map String.ofList).filter fun part => part != "" && part != "." := by
  have parts := List.splitOn_append_cons_self front rest (a := '/')
  rw [← split] at parts
  cases steps : front.splitOn '/' with
  | nil => exact absurd steps (List.splitOn_ne_nil _ _)
  | cons first others =>
      rw [steps, List.cons_append] at parts
      rw [components_of_splitOn _ parts,
        components_of_splitOn (.ofList front) (by rw [String.toList_ofList, steps]),
        List.map_append, List.filter_append, List.append_assoc]

/-- What is put behind a path leaves its start alone. -/
theorem startsWith_of_append {directory path : String} {rest : List Char}
    (nonempty : directory ≠ "") (split : path.toList = directory.toList ++ rest) :
    path.startsWith "/" = directory.startsWith "/" := by
  rw [Bool.eq_iff_iff, String.startsWith_string_iff, String.startsWith_string_iff, split]
  cases characters : directory.toList with
  | nil => exact absurd (String.toList_eq_nil_iff.1 characters) nonempty
  | cons first others => simp

/-- Where a directory is followed by a name, the path leads to the directory and then to the
name. -/
theorem components_join (directory : String) (oneStep : '/' ∉ name.toList) (nonempty : name ≠ "")
    (noDot : name ≠ ".") :
    Path.components (Path.join directory name) = Path.components directory ++ [name]
      ∧ (Path.join directory name).startsWith "/" = directory.startsWith "/" := by
  have whole : name.toList.splitOn '/' = [name.toList] := List.splitOn_eq_singleton oneStep
  have relative : name.startsWith "/" = false := by
    rw [Bool.eq_false_iff, Ne, String.startsWith_string_iff]
    exact fun front => oneStep (front.subset (by decide))
  -- What stands in front of the name is the directory, up to one slash at its end.
  have behind (front : List Char) {path : String}
      (split : path.toList = front ++ '/' :: name.toList) :
      Path.components path = Path.components (.ofList front) ++ [name] := by
    rw [components_append_slash front split, whole]
    simp [nonempty, noDot]
  by_cases empty : directory = ""
  · have here : Path.join directory name = name := by simp [Path.join, empty]
    rw [here, components_of_splitOn _ whole, empty, relative]
    exact ⟨by simp [nonempty, Path.components, Path.parts], by simp⟩
  by_cases closed : directory.endsWith "/" = true
  · have joined : Path.join directory name = directory ++ name := by
      simp [Path.join, relative, empty, closed]
    have slash : ['/'] <:+ directory.toList := by
      rw [String.endsWith_eq_endsWith_toSlice, String.Slice.endsWith_string_iff] at closed
      simpa using closed
    obtain ⟨front, ended⟩ := slash
    have trimmed : Path.components directory = Path.components (.ofList front) := by
      rw [components_append_slash front ended.symm]
      simp
    rw [joined, trimmed]
    exact ⟨behind _ (by simp [← ended]), startsWith_of_append empty String.toList_append⟩
  · have joined : Path.join directory name = directory ++ "/" ++ name := by
      simp [Path.join, relative, empty, closed]
    rw [joined]
    refine ⟨?_, startsWith_of_append empty (by simp; rfl)⟩
    simpa using behind directory.toList (by simp)

end Places

/-- A file name is the runs of small letters and digits in the lower case of the name of a schema,
joined by underscores, or a name for schemas without any. So it is not empty, has underscores only
one by one and between such runs, and is kept when a name is made from it. With its extension it is
one step from the directory that it is written into, to a file of its own for each format. -/
theorem file_names_are_canonical (name : String) :
    fileStem name =
        (if stemRuns name = [] then "schema" else .ofList (['_'].intercalate (stemRuns name)))
      ∧ IsStem (fileStem name)
      ∧ fileStem (fileStem name) = fileStem name
      ∧ (∀ format format' contents contents',
        (named name format contents).fileName = (named name format' contents').fileName →
          format = format')
      ∧ ∀ directory format contents,
        let artifact := named name format contents
        let path := Path.join directory artifact.fileName
        Path.components path = Path.components directory ++ [artifact.fileName]
          ∧ path.startsWith "/" = directory.startsWith "/"
          ∧ (∀ place, Files.stepTo place artifact.fileName = place ++ [artifact.fileName])
          ∧ ∀ {m : Type → Type} [Monad m] [LawfulMonad m] (host : Host m),
            artifact.writeInto host directory =
              (fun written => written.map fun () => path) <$> host.writeText path contents := by
  refine ⟨fileStem_eq name, isStem_fileStem name, fileStem_fileStem name, ?_, ?_⟩
  · intro format format' contents contents' same
    have extensions : format.extension = format'.extension := by
      simpa [named] using same
    cases format <;> cases format' <;> first | rfl | exact absurd extensions (by decide)
  · intro directory format contents artifact path
    have isStem := isStem_fileStem name
    have written : artifact.fileName.toList =
        (fileStem name).toList ++ '.' :: format.extension.toList := by
      simp [artifact, named]
    have oneStep : '/' ∉ artifact.fileName.toList := by
      rw [written, List.mem_append, List.mem_cons]
      rintro (inStem | point | inExtension)
      · exact absurd (isStem.characters _ inStem) (by decide)
      · exact absurd point (by decide)
      · cases format <;> exact absurd inExtension (by decide)
    have long : 2 < artifact.fileName.toList.length := by
      have some := List.length_pos_iff.2 isStem.nonempty
      have extension : 2 < format.extension.toList.length := by cases format <;> decide
      rw [written, List.length_append, List.length_cons]
      omega
    have noStep : artifact.fileName ≠ "" ∧ artifact.fileName ≠ "." ∧ artifact.fileName ≠ ".." := by
      refine ⟨?_, ?_, ?_⟩ <;> intro short <;> rw [short] at long <;> exact absurd long (by decide)
    obtain ⟨components, absolute⟩ := components_join directory oneStep noStep.1 noStep.2.1
    refine ⟨components, absolute, fun place => ?_, fun host => ?_⟩
    · simp [Files.stepTo, noStep]
    · rw [map_eq_pure_bind]
      rfl

/-- The Kelvin sign has an ASCII letter for its lower case, and a letter with an accent has not. -/
example : fileStem "Été -- 20\u212a!" = "t_20k" := by
  decide +kernel

end DbSchema.Artifact
