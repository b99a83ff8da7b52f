import DbSchema.Proofs.Sql.TagSearch
import DbSchema.Proofs.Sql.Isolation
import Mathlib.Data.List.Infix

/-!
# Bodies are enclosed by their tags

A reader that looks for the tag behind the opening one finds the closing one, and the body on lines
of its own in between. The body itself does not hold the tag, and the line feeds around it keep
the tag from starting in the body and ending behind it. Nothing is asked of the schema here: what is
in front of the opening tag and behind the closing one does not matter.
-/

namespace DbSchema.Sql

/-- Whether a tag is the one to choose for a body: it does not occur in the body, it is two dollar
signs exactly when these do not occur, and else the first candidate that does not. -/
structure IsTagFor (tag body : String) : Prop where
  absent : Text.occursIn tag body = false
  dollars : tag = "$$" ↔ Text.occursIn "$$" body = false
  candidate : Text.occursIn "$$" body = true →
    ∃ index, tag = tagCandidate index
      ∧ ∀ earlier < index, Text.occursIn (tagCandidate earlier) body = true

/-- Whether a text has a stretch `inside` between two tags, the second of which is the first to
occur behind the opening one. -/
structure Encloses (tag inside front behind text : List Char) : Prop where
  parts : text = front ++ (tag ++ (inside ++ (tag ++ behind)))
  closing : (inside ++ (tag ++ behind)).dropInfix? tag = some (inside, behind)

/-- What a function is written as up to the opening tag of its body. -/
def functionHead (routine : Routine) : List Piece :=
  commentPieces (routineComment routine)
    ++ [.plain "CREATE OR REPLACE FUNCTION ", .name routine.name]
    ++ parameterPieces (routine.parameters.map (functionParameter .postgresql))
    ++ [.plain "\nRETURNS ", .plain (returnWords .postgresql (routine.returnType.getD .void)),
      .plain "\nLANGUAGE ", .verbatim (languageOf routine), .plain "\nAS "]

section Tags

/-- The tag of a body is the one to choose for it. -/
theorem isTagFor_bodyTag (body : String) : IsTagFor (bodyTag body) body := by
  have absent : Text.occursIn (bodyTag body) body = false := by
    rw [Text.occursIn, Bool.eq_false_iff, ne_eq, Text.occurs_iff]
    exact bodyTag_absent body
  have candidate (dollars : Text.occursIn "$$" body = true) :
      ∃ index, bodyTag body = tagCandidate index
        ∧ ∀ earlier < index, Text.occursIn (tagCandidate earlier) body = true := by
    obtain ⟨tests, search, reached, ends⟩ := exists_ending_search body
    refine ⟨tests, ?_, reached.occurs⟩
    rw [bodyTag_eq_of_ends dollars reached ends, reached.eq]
  refine ⟨absent, ⟨fun same => by rwa [same] at absent, fun none => ?_⟩, candidate⟩
  rw [bodyTag, if_neg (by simp [none])]

end Tags

section Enclosing

/-- A tag that stands behind a line in which it does not occur is found at the end of this line. -/
theorem dropInfix?_behind_line {tag line : List Char} (behind : List Char) (oneLine : '\n' ∉ tag)
    (absent : ¬tag <:+: line) :
    (line ++ '\n' :: (tag ++ behind)).dropInfix? tag = some (line ++ ['\n'], behind) := by
  refine List.dropInfix?_eq_some_iff.2 ⟨⟨tag, by simp, by simp⟩, ?_⟩
  intro front found rest split same
  obtain rfl : found = tag := by simpa using same
  by_contra early
  rw [List.length_append, List.length_singleton, ge_iff_le, not_le, Nat.lt_succ_iff] at early
  -- An earlier occurrence would start in the line, and then it would lie in the line as a whole.
  have starts : found <+: line.drop front.length ++ '\n' :: (found ++ behind) := by
    rw [← List.drop_append_of_le_length early, split]
    simp
  exact absent ((prefix_of_prefix_line oneLine starts).isInfix.trans (List.drop_suffix _ _).isInfix)

/-- A dollar tag encloses a text on lines of its own that does not have it. -/
theorem encloses_of_absent {tag body : List Char} (front behind : List Char)
    (isTag : IsDollarTag tag) (absent : ¬tag <:+: body) :
    Encloses tag ('\n' :: (body ++ ['\n'])) front behind
      (front ++ (tag ++ '\n' :: (body ++ '\n' :: (tag ++ behind)))) := by
  have notInLine : ¬tag <:+: '\n' :: body := by
    rw [List.infix_cons_iff, not_or]
    refine ⟨fun starts => ?_, absent⟩
    obtain ⟨name, rfl, _, _⟩ := isTag
    simp at starts
  exact ⟨by simp, by simpa using dropInfix?_behind_line behind isTag.oneLine notInLine⟩

/-- A body is its text and the line ends behind it, and its text ends with none. -/
theorem bodyText_append_lineEnds (body : String) :
    (∃ lineEnds : List Char, body.toList = (bodyText body).toList ++ lineEnds
        ∧ ∀ character ∈ lineEnds, character = '\n' ∨ character = '\r')
      ∧ ∀ last, (bodyText body).toList.getLast? = some last → last ≠ '\n' ∧ last ≠ '\r' := by
  rw [bodyText, String.toList_ofList]
  generalize isEnd : (fun character : Char => (character = '\n' || character = '\r' : Bool)) = drop
  have dropped {character : Char} :
      drop character = true ↔ character = '\n' ∨ character = '\r' := by
    simp [← isEnd]
  refine ⟨⟨_, (Text.dropTrailing_append_run drop body.toList).symm, ?_⟩, fun last isLast => ?_⟩
  · intro character member
    have run := List.all_eq_true.1 (List.all_takeWhile (p := drop) (l := body.toList.reverse))
    exact dropped.1 (run character (List.mem_reverse.1 member))
  · have kept := Text.getLast?_dropTrailing drop body.toList
    rw [isLast, Option.any_some, Bool.eq_false_iff, ne_eq, dropped, not_or] at kept
    exact kept

/-- The text of a function is its head and its body between tags. -/
theorem textOf_createFunction (routine : Routine) :
    Piece.textOf Dialect.postgresql.quoteMark (createRoutine .postgresql routine).pieces =
      Piece.textOf Dialect.postgresql.quoteMark (functionHead routine)
        ++ ((bodyTag (bodyText routine.body)).toList ++ '\n' :: ((bodyText routine.body).toList
          ++ '\n' :: ((bodyTag (bodyText routine.body)).toList ++ [';']))) := by
  simp [createRoutine, Statement.pieces, Statement.comment, Statement.core, functionHead,
    Piece.text]

end Enclosing

section Scripts

variable {dialect : Dialect} {schema : Schema}

/-- The text of a group is a stretch of the text of the groups with something between each two. -/
theorem textOf_infix_separated {quote : Char} {separator : String} {groups : List (List Piece)}
    {group : List Piece} (member : group ∈ groups) :
    Piece.textOf quote group <:+: Piece.textOf quote (Piece.separated separator groups) := by
  induction groups with
  | nil => simp at member
  | cons first groups inductionHypothesis =>
      cases groups with
      | nil =>
          obtain rfl := List.mem_singleton.1 member
          exact List.infix_rfl
      | cons second groups =>
          rw [separated_cons_cons, textOf_append, textOf_cons]
          rcases List.mem_cons.1 member with rfl | later
          · exact (List.prefix_append _ _).isInfix
          · exact ((inductionHypothesis later).trans (List.suffix_append _ _).isInfix).trans
              (List.suffix_append _ _).isInfix

/-- The text of a statement is a stretch of the text of the section that it is in. -/
theorem textOf_infix_section {quote : Char} {part : Section} {statement : Statement}
    (member : statement ∈ part.entries.flatten) :
    Piece.textOf quote statement.pieces <:+: Piece.textOf quote part.pieces := by
  obtain ⟨entry, inPart, inEntry⟩ := List.mem_flatten.1 member
  have filled : part.entries.isEmpty = false := by
    cases entries : part.entries with
    | nil => simp [entries] at inPart
    | cons => rfl
  have entryText :
      Piece.textOf quote statement.pieces <:+: Piece.textOf quote (entryPieces entry) :=
    textOf_infix_separated (List.mem_map_of_mem inEntry)
  rw [Section.pieces, filled, if_neg Bool.false_ne_true, textOf_append, textOf_append]
  exact ((entryText.trans (textOf_infix_separated (List.mem_map_of_mem inPart))).trans
    (List.suffix_append _ _).isInfix).trans (List.prefix_append _ _).isInfix

/-- The text of every statement of a schema is a stretch of the text of the schema. -/
theorem textOf_infix_compile (options : Options) (time : Timestamp) {statement : Statement}
    (member : statement ∈ statementsOf (options.dialectFor schema) schema) :
    Piece.textOf (options.dialectFor schema).quoteMark statement.pieces
      <:+: (compile options time schema).toList := by
  rw [statementsOf_eq, List.mem_flatMap] at member
  obtain ⟨part, inScript, inPart⟩ := member
  obtain ⟨earlier, later, split⟩ := List.append_of_mem inScript
  rw [compile, Script.text, textIn, String.toList_ofList, Script.pieces, textOf_append]
  refine List.IsInfix.trans ?_ (List.suffix_append _ _).isInfix
  have sections : (scriptOf options time schema).sections = earlier ++ part :: later := split
  rw [sections, List.flatMap_append, List.flatMap_cons, textOf_append, textOf_append]
  exact ((textOf_infix_section inPart).trans (List.prefix_append _ _).isInfix).trans
    (List.suffix_append _ _).isInfix

/-- The text of a function encloses its body. -/
theorem encloses_createFunction (routine : Routine) (before behind : List Char) :
    Encloses (bodyTag (bodyText routine.body)).toList
      ('\n' :: ((bodyText routine.body).toList ++ ['\n']))
      (before ++ Piece.textOf Dialect.postgresql.quoteMark (functionHead routine)) (';' :: behind)
      (before
        ++ Piece.textOf Dialect.postgresql.quoteMark (createRoutine .postgresql routine).pieces
        ++ behind) := by
  have enclosed := encloses_of_absent
    (before ++ Piece.textOf Dialect.postgresql.quoteMark (functionHead routine)) (';' :: behind)
    (isDollarTag_bodyTag (bodyText routine.body)) (bodyTag_absent (bodyText routine.body))
  rw [textOf_createFunction]
  simpa using enclosed

/-- The text of a schema encloses the bodies of its functions. -/
theorem encloses_compile {options : Options} (time : Timestamp) {routine : Routine}
    (postgresql : options.dialectFor schema = .postgresql) (member : routine ∈ schema.routines) :
    ∃ before behind, Encloses (bodyTag (bodyText routine.body)).toList
      ('\n' :: ((bodyText routine.body).toList ++ ['\n']))
      (before ++ Piece.textOf Dialect.postgresql.quoteMark (functionHead routine)) (';' :: behind)
      (compile options time schema).toList := by
  have inSchema : createRoutine .postgresql routine ∈ statementsOf .postgresql schema :=
    mem_statementsOf.2 (.inr (.inr (.inr (.inr (.inr (.inr (List.mem_map_of_mem member)))))))
  have stretch := textOf_infix_compile options time (postgresql ▸ inSchema)
  obtain ⟨before, behind, split⟩ := stretch
  refine ⟨before, behind, ?_⟩
  rw [← split, postgresql]
  exact encloses_createFunction routine before behind

end Scripts

/-- Dollar tags protect the bodies of routines. For every body, the search for a tag finds no more
candidates in it than it has bytes and ends, so that its number is below `2 ^ 31` for bodies shorter
than that by two bytes, and what it ends with is the tag to choose. In the text of a schema, a
function has its body between its tag and the next occurrence of this tag, on lines of its own and
without the line ends at its end. -/
theorem bodies_are_protected :
    (∀ body : String,
      (∀ tests search, TagSearch.Reached body tests search →
          tests + 1 ≤ body.utf8ByteSize + 1 ∧ search.number = tests + 1
            ∧ (body.utf8ByteSize < 2 ^ 31 - 1 → search.number < 2 ^ 31))
        ∧ (∃ tests search, TagSearch.Reached body tests search ∧ search.Ends body
          ∧ (Text.occursIn "$$" body = true → bodyTag body = search.candidate))
        ∧ IsTagFor (bodyTag body) body)
      ∧ ∀ routine : Routine,
        let body := bodyText routine.body
        let tag := (bodyTag body).toList
        let inside := '\n' :: (body.toList ++ ['\n'])
        let head := Piece.textOf Dialect.postgresql.quoteMark (functionHead routine)
        (∃ lineEnds, routine.body.toList = body.toList ++ lineEnds
            ∧ ∀ character ∈ lineEnds, character = '\n' ∨ character = '\r')
          ∧ (∀ last, body.toList.getLast? = some last → last ≠ '\n' ∧ last ≠ '\r')
          ∧ Encloses tag inside head [';'] (Piece.textOf Dialect.postgresql.quoteMark
            (createRoutine .postgresql routine).pieces)
          ∧ ∀ options time schema, options.dialectFor schema = .postgresql →
            routine ∈ schema.routines →
            ∃ before behind, Encloses tag inside (before ++ head) (';' :: behind)
              (compile options time schema).toList := by
  constructor
  · intro body
    refine ⟨fun tests search reached => ?_, ?_, isTagFor_bodyTag body⟩
    · have found := reached.tests_le.trans (length_le_utf8ByteSize body)
      rw [reached.eq]
      dsimp only
      exact ⟨by omega, rfl, by omega⟩
    · obtain ⟨tests, search, reached, ends⟩ := exists_ending_search body
      exact ⟨tests, search, reached, ends, fun dollars => bodyTag_eq_of_ends dollars reached ends⟩
  · intro routine
    obtain ⟨lineEnds, last⟩ := bodyText_append_lineEnds routine.body
    refine ⟨lineEnds, last, ?_, fun options time schema postgresql member => ?_⟩
    · simpa using encloses_createFunction routine [] []
    · exact encloses_compile time postgresql member

/-- A routine whose body has two candidates that share a dollar sign, and all of a third one but
its last character. -/
def overlappingRoutine : Routine :=
  ⟨"routine", "f", [], none, "$$body$body1$body2\r\n\n", none, none⟩

/-- The search tries three candidates for such a body, and the third one encloses it. -/
theorem bodies_are_protected_when_tags_overlap :
    let schema := { hostileSchema with routines := [overlappingRoutine] }
    let body := "$$body$body1$body2"
    bodyText overlappingRoutine.body = body ∧ bodyTag body = "$body2$"
      ∧ (∀ tests search, TagSearch.Reached body tests search → search.number < 2 ^ 31)
      ∧ IsTagFor "$body2$" body
      ∧ Options.standard.dialectFor schema = .postgresql ∧ overlappingRoutine ∈ schema.routines
      ∧ ∃ front behind, Encloses "$body2$".toList ('\n' :: (body.toList ++ ['\n'])) front behind
        (compile Options.standard default schema).toList := by
  intro schema body
  have text : bodyText overlappingRoutine.body = body := by decide
  have tag : bodyTag body = "$body2$" := by decide
  have postgresql : Options.standard.dialectFor schema = .postgresql := rfl
  have member : overlappingRoutine ∈ schema.routines := List.mem_singleton_self _
  obtain ⟨search, -, isTag⟩ := bodies_are_protected.1 body
  obtain ⟨-, -, -, enclosed⟩ := bodies_are_protected.2 overlappingRoutine
  obtain ⟨before, behind, encloses⟩ :=
    enclosed Options.standard default schema postgresql member
  rw [text, tag] at encloses
  rw [tag] at isTag
  exact ⟨text, tag, fun tests state reached => (search tests state reached).2.2 (by decide), isTag,
    postgresql, member, _, _, encloses⟩

end DbSchema.Sql
