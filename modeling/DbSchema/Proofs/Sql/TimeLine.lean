import DbSchema.Proofs.Sql.Isolation
import DbSchema.Proofs.Text.Stretches

/-!
# The time of a script is on one line

The time at which a script is generated stands on its third line and nowhere else. Names are brought
on one line before they enter the two lines in front, so that no text of a schema moves the third
one; what follows it is the same at every time. The other end of a script is looked at as well: a
statement ends with its semicolon, so that only one line feed stands behind the last one.
-/

namespace DbSchema.Sql

/-- Whether a text ends with one line feed and no more. -/
def EndsWithOneFeed (text : List Char) : Prop :=
  ∃ body last, text = body ++ [last, '\n'] ∧ last ≠ '\n'

/-- The characters of a comment with the given text. -/
def commentText (line : String) : List Char :=
  '-' :: '-' :: line.toList

/-- The text of a script behind its line of time: the description, and the sections. -/
def textBehindTime (dialect : Dialect) (schema : Schema) : List Char :=
  Piece.textOf dialect.quoteMark
    (commentPieces (commentLines schema.description)
      ++ (sectionsOf dialect schema).flatMap Section.pieces)

/-- Comment lines are written with a line feed behind each. -/
theorem textOf_commentPieces {quote : Char} (lines : List String) :
    Piece.textOf quote (commentPieces lines) = (lines.map commentText).flatMap (· ++ ['\n']) := by
  simp [Piece.textOf, commentPieces, List.flatMap_assoc, List.flatMap_map, commentText, Piece.text]

section Ends

variable {quote : Char} {pieces : List Piece}

theorem EndsWithOneFeed.append (left : List Char) {right : List Char}
    (ends : EndsWithOneFeed right) : EndsWithOneFeed (left ++ right) := by
  obtain ⟨body, last, rfl, other⟩ := ends
  exact ⟨left ++ body, last, (List.append_assoc ..).symm, other⟩

/-- A line feed behind a character that is no blank is the only one at the end. -/
theorem EndsSolid.endsWithOneFeed (solid : EndsSolid quote pieces) :
    EndsWithOneFeed (Piece.textOf quote (pieces ++ [.plain "\n"])) := by
  unfold EndsSolid at solid
  rcases List.eq_nil_or_concat (Piece.textOf quote pieces) with none | ⟨body, last, same⟩
  · simp [none] at solid
  · refine ⟨body, last, by simp [same, Piece.text], ?_⟩
    rintro rfl
    rw [same] at solid
    simp [Text.isBlank] at solid

/-- Groups with a separator between each two end as the last of them. -/
theorem endsSolid_separated (separator : String) {groups : List (List Piece)}
    (nonempty : groups ≠ []) (solid : ∀ group ∈ groups, EndsSolid quote group) :
    EndsSolid quote (Piece.separated separator groups) := by
  induction groups with
  | nil => exact absurd rfl nonempty
  | cons group groups inductionHypothesis =>
      cases groups with
      | nil => exact solid group (.head _)
      | cons next groups =>
          have behind := inductionHypothesis (by simp) fun other member =>
            solid other (.tail _ member)
          exact endsSolid_append _ (endsSolid_append [.plain separator] behind)

/-- A statement ends with its semicolon. -/
theorem endsSolid_statement (statement : Statement) : EndsSolid quote statement.pieces :=
  endsSolid_append _ (endsSolid_plain (by decide))

/-- A section without entries is no text, and every other one ends with one line feed. -/
theorem section_endsWithOneFeed {part : Section} (filled : ∀ entry ∈ part.entries, entry ≠ []) :
    Piece.textOf quote part.pieces = []
      ∨ EndsWithOneFeed (Piece.textOf quote part.pieces) := by
  unfold Section.pieces
  split
  case isTrue => exact .inl rfl
  case isFalse some =>
    have nonempty : part.entries.map entryPieces ≠ [] := by simpa using some
    have solid (group : List Piece) (member : group ∈ part.entries.map entryPieces) :
        EndsSolid quote group := by
      obtain ⟨entry, inPart, rfl⟩ := List.mem_map.1 member
      refine endsSolid_separated _ (by simpa using filled entry inPart) fun group inEntry => ?_
      obtain ⟨statement, -, rfl⟩ := List.mem_map.1 inEntry
      exact endsSolid_statement statement
    right
    have entries :=
      (endsSolid_separated (if part.spaced then "\n\n" else "\n") nonempty solid).endsWithOneFeed
    rw [List.append_assoc, textOf_append]
    exact entries.append _

/-- No section of a schema has an entry without statements. -/
theorem entry_ne_nil {dialect : Dialect} {schema : Schema} {part : Section}
    (member : part ∈ sectionsOf dialect schema) {entry : List Statement}
    (inPart : entry ∈ part.entries) : entry ≠ [] := by
  have single {statements : List Statement}
      (inSection : entry ∈ statements.map fun statement => [statement]) : entry ≠ [] := by
    obtain ⟨statement, -, rfl⟩ := List.mem_map.1 inSection
    exact List.cons_ne_nil _ _
  have table (inSection : entry ∈ createTables dialect schema) : entry ≠ [] := by
    obtain ⟨table, -, rfl⟩ := List.mem_map.1 inSection
    exact List.cons_ne_nil _ _
  simp only [sectionsOf, List.mem_cons, List.not_mem_nil, or_false] at member
  rcases member with rfl | rfl | rfl | rfl | rfl | rfl | rfl
  · exact single inPart
  · exact single inPart
  · exact table inPart
  · exact single inPart
  · exact single inPart
  · exact single inPart
  · exact single inPart

/-- Comment lines end with one line feed, if there are any. -/
theorem comments_endWithOneFeed {lines : List String} (nonempty : lines ≠ [])
    (oneLine : ∀ line ∈ lines, '\n' ∉ line.toList) :
    EndsWithOneFeed (Piece.textOf quote (commentPieces lines)) := by
  obtain ⟨earlier, line, rfl⟩ := (List.eq_nil_or_concat lines).resolve_left nonempty
  obtain ⟨body, last, same⟩ :=
    (List.eq_nil_or_concat (commentText line)).resolve_left (List.cons_ne_nil _ _)
  have other : last ≠ '\n' := by
    rintro rfl
    have inText : '\n' ∈ commentText line := by simp [same]
    exact oneLine line (by simp) (by simpa [commentText] using inText)
  have split : Piece.textOf quote (commentPieces (earlier.concat line)) =
      (earlier.map commentText).flatMap (· ++ ['\n']) ++ (body ++ [last, '\n']) := by
    simp [textOf_commentPieces, same]
  rw [split]
  exact EndsWithOneFeed.append _ ⟨body, last, rfl, other⟩

/-- A script ends with one line feed. -/
theorem compile_endsWithOneFeed (options : Options) (time : Timestamp) (schema : Schema) :
    EndsWithOneFeed (compile options time schema).toList := by
  have header : EndsWithOneFeed (Piece.textOf (options.dialectFor schema).quoteMark
      (commentPieces (scriptOf options time schema).header)) :=
    comments_endWithOneFeed (by simp [scriptOf, headerLines])
      fun line member => oneLine_of_mem_headerLines member
  have sections (parts : List Section)
      (among : ∀ part ∈ parts, part ∈ sectionsOf (options.dialectFor schema) schema)
      (start : List Char) (ends : EndsWithOneFeed start) :
      EndsWithOneFeed (start ++ Piece.textOf (options.dialectFor schema).quoteMark
        (parts.flatMap Section.pieces)) := by
    induction parts generalizing start with
    | nil => simpa using ends
    | cons part parts inductionHypothesis =>
        rw [List.flatMap_cons, textOf_append, ← List.append_assoc]
        refine inductionHypothesis (fun other member => among other (.tail _ member)) _ ?_
        rcases section_endsWithOneFeed fun entry => entry_ne_nil (among part (.head _)) with
          none | some
        · rwa [none, List.append_nil]
        · exact some.append start
  have whole := sections _ (fun _ member => member) _ header
  simpa [compile, Script.text, textIn, Script.pieces, scriptOf] using whole

end Ends

section Lines

/-- The two lines in front of the time. -/
def linesInFront (dialect : Dialect) (schema : Schema) : List (List Char) :=
  [commentText (" Schema: " ++ Text.onOneLine schema.name),
    commentText (" Dialect: " ++ dialect.label)]

/-- The line that tells the time, if it is told. -/
def timeLines (options : Options) (time : Timestamp) : List (List Char) :=
  if options.timestamp then [commentText (" Generated: " ++ time.textToSecond)] else []

variable (options : Options) (time : Timestamp) (schema : Schema)

/-- The lines at the top of a script: those up to the time, and the description. -/
theorem map_commentText_header :
    (scriptOf options time schema).header.map commentText =
      linesInFront (options.dialectFor schema) schema ++ timeLines options time
        ++ (commentLines schema.description).map commentText := by
  unfold scriptOf headerLines timeLines linesInFront
  split <;> simp

/-- A script is its lines up to the time, each ended by a line feed, and what follows them. -/
theorem toList_compile :
    (compile options time schema).toList =
      (linesInFront (options.dialectFor schema) schema ++ timeLines options time).flatMap
          (· ++ ['\n'])
        ++ textBehindTime (options.dialectFor schema) schema := by
  rw [compile, Script.text, textIn, String.toList_ofList, Script.pieces, textOf_append,
    textOf_commentPieces, map_commentText_header, textBehindTime, textOf_append,
    textOf_commentPieces, List.flatMap_append, List.append_assoc]
  rfl

/-- The lines of a script up to the time are found at their line feeds. -/
theorem splitOn_compile :
    (compile options time schema).toList.splitOn '\n' =
      linesInFront (options.dialectFor schema) schema ++ timeLines options time
        ++ (textBehindTime (options.dialectFor schema) schema).splitOn '\n' := by
  rw [toList_compile]
  refine Text.splitOn_flatMap_append _ fun line member => ?_
  have inHeader : line ∈ (scriptOf options time schema).header.map commentText := by
    rw [map_commentText_header]
    exact List.mem_append_left _ member
  obtain ⟨text, isLine, rfl⟩ := List.mem_map.1 inHeader
  simpa [commentText] using oneLine_of_mem_headerLines isLine

end Lines

/-- Scripts of a schema that were generated at two times, and tell them, have as many lines, and
only the third lines differ, which tell the times. Without it, they are the script that does not
tell the time. Every script ends with one line feed. -/
theorem time_is_on_third_line (dialect : Option Dialect) (schema : Schema) :
    let lines (time : Timestamp) := (compile ⟨true, dialect⟩ time schema).toList.splitOn '\n'
    (∀ first second, (lines first).length = (lines second).length
      ∧ ∀ index, index ≠ 2 → (lines first)[index]? = (lines second)[index]?)
      ∧ (∀ time, (lines time)[2]? = some ("-- Generated: " ++ time.textToSecond).toList)
      ∧ (∀ time other, (compile ⟨false, dialect⟩ other schema).toList =
        ['\n'].intercalate ((lines time).eraseIdx 2))
      ∧ ∀ options time, EndsWithOneFeed (compile options time schema).toList := by
  intro lines
  obtain ⟨name, dialectLine, inFront⟩ :
      ∃ name dialectLine, linesInFront (dialect.getD schema.dialect) schema = [name, dialectLine] :=
    ⟨_, _, rfl⟩
  have told (time : Timestamp) : lines time =
      name :: dialectLine :: commentText (" Generated: " ++ time.textToSecond)
        :: (textBehindTime (dialect.getD schema.dialect) schema).splitOn '\n' := by
    refine (splitOn_compile ⟨true, dialect⟩ time schema).trans ?_
    simp only [Options.dialectFor, inFront, timeLines, if_true, List.cons_append, List.nil_append]
  have untold (time : Timestamp) : (compile ⟨false, dialect⟩ time schema).toList.splitOn '\n' =
      name :: dialectLine
        :: (textBehindTime (dialect.getD schema.dialect) schema).splitOn '\n' := by
    refine (splitOn_compile ⟨false, dialect⟩ time schema).trans ?_
    simp only [Options.dialectFor, inFront, timeLines, Bool.false_eq_true, if_false,
      List.append_nil, List.cons_append, List.nil_append]
  refine ⟨fun first second => ⟨?_, fun index other => ?_⟩, fun time => ?_, fun time other => ?_,
    fun options time => compile_endsWithOneFeed options time schema⟩
  · simp only [told, List.length_cons]
  · rw [told, told]
    match index with
    | 0 | 1 => simp only [List.getElem?_cons_zero, List.getElem?_cons_succ]
    | 2 => exact absurd rfl other
    | behind + 3 => simp only [List.getElem?_cons_succ]
  · rw [told]
    simp [commentText]
  · have erased : (lines time).eraseIdx 2 =
        (compile ⟨false, dialect⟩ other schema).toList.splitOn '\n' := by
      rw [told, untold, List.eraseIdx_cons_succ, List.eraseIdx_cons_succ, List.eraseIdx_cons_zero]
    rw [erased, List.intercalate_splitOn]

/-- Line ends in the name and in the description of a schema, in its routines and in their comments
do not move the line of time. -/
theorem time_is_on_third_line_of_hostileSchema :
    let lines (time : Timestamp) :=
      (compile ⟨true, some .mysql⟩ time hostileSchema).toList.splitOn '\n'
    (lines ⟨2024, 1, 28, 23, 59, 60, 5⟩)[2]? = some "-- Generated: 2024-02-29T23:59:60Z".toList
      ∧ 4 ≠ 2 ∧ (lines ⟨2024, 1, 28, 23, 59, 60, 5⟩)[4]? = (lines ⟨-5, 0, 0, 0, 0, 0, 0⟩)[4]?
      ∧ EndsWithOneFeed
        (compile ⟨true, some .mysql⟩ ⟨-5, 0, 0, 0, 0, 0, 0⟩ hostileSchema).toList := by
  intro lines
  obtain ⟨same, told, -, ends⟩ := time_is_on_third_line (some .mysql) hostileSchema
  exact ⟨told _, by decide, (same _ _).2 4 (by decide), ends _ _⟩

end DbSchema.Sql
