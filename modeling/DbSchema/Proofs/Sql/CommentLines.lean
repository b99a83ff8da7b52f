import DbSchema.Proofs.Sql.TimeLine
import DbSchema.Proofs.Text.Returns

/-!
# Comments and carriage returns

Words of a schema are cut into lines before they enter comments, so that no comment has a line feed
in it. Some databases end a comment at a carriage return as well, and one that is no part of a line
end stays in its comment: what stands behind it leaves the comment. `lone_returns_end_comments` says
for which words this happens, and that nothing else takes words out of a comment.
-/

namespace DbSchema.Sql

/-- The text with line feeds for its carriage returns. Where a comment may end at either, `scan` is
given the text in this form. Outside of comments that changes no role: there a character is only
asked whether it is a mark, a dash, a dollar sign or part of a tag, and neither of the two is. -/
def withFeeds (text : List Char) : List Char :=
  text.map fun character => if character = '\r' then '\n' else character

/-- Whether a line is a comment as a whole where a comment may end at a carriage return, whatever
comes in the lines behind it. -/
def IsWholeComment (dialect : Dialect) (line : List Char) : Prop :=
  ∀ rest, scan dialect .plain (withFeeds (line ++ '\n' :: rest)) =
    (scan dialect .plain (withFeeds rest)).after
      (lettersAs .comment (withFeeds line) ++ lettersAs .plain ['\n'])

section Scanning

@[simp] theorem withFeeds_cons (first : Char) (rest : List Char) :
    withFeeds (first :: rest) = (if first = '\r' then '\n' else first) :: withFeeds rest := rfl

@[simp] theorem withFeeds_append (left right : List Char) :
    withFeeds (left ++ right) = withFeeds left ++ withFeeds right :=
  List.map_append

/-- A text without carriage returns stays as it is. -/
theorem withFeeds_eq_self {text : List Char} (none : '\r' ∉ text) : withFeeds text = text := by
  refine (List.map_congr_left fun character member => ?_).trans (List.map_id text)
  have other : character ≠ '\r' := fun same => none (same ▸ member)
  simp [other]

variable (dialect : Dialect)

/-- A comment ends at its first carriage return, and what stands behind it is read for itself. -/
theorem scan_up_to_return {front : List Char} (rest : List Char) (oneLine : '\n' ∉ front)
    (first : '\r' ∉ front) :
    scan dialect .plain (withFeeds ('-' :: '-' :: (front ++ '\r' :: rest))) =
      (scan dialect .plain (withFeeds rest)).after
        (lettersAs .comment ('-' :: '-' :: front) ++ lettersAs .plain ['\n']) := by
  have read := scan_commentLine dialect (withFeeds rest) oneLine
  simpa [withFeeds_eq_self first] using read

/-- A comment line is a whole comment exactly when it has no carriage return. -/
theorem isWholeComment_iff {line : String} (oneLine : '\n' ∉ line.toList) :
    IsWholeComment dialect (commentText line) ↔ '\r' ∉ commentText line := by
  constructor
  · intro whole member
    have inLine : '\r' ∈ line.toList := by simpa [commentText] using member
    obtain ⟨front, back, same, first⟩ := List.eq_append_cons_of_mem inLine
    have inFront : '\n' ∉ front := fun feed => oneLine (by simp [same, feed])
    have cut := scan_up_to_return dialect (back ++ ['\n']) inFront first
    have read := whole []
    -- The letter at the place of the return is plain in one reading and a comment in the other.
    simp only [commentText, same, List.cons_append, List.append_assoc, cut] at read
    have letters := congrArg Scan.letters read
    simp [Scan.after, withFeeds_eq_self first] at letters
  · intro none rest
    have noneInLine : '\r' ∉ line.toList := fun member => none (by simp [commentText, member])
    have read := scan_commentLine dialect (withFeeds rest) oneLine
    simpa [commentText, withFeeds_eq_self noneInLine] using read

end Scanning

section Entries

variable {schema : Schema} {dialect : Dialect} {time : Option Timestamp} {routine : Routine}

/-- Comment lines have a carriage return exactly when their text has one with more than blanks
behind it on its line. -/
theorem return_mem_commentLines_iff (text : String) :
    (∃ entry ∈ (commentLines text).map commentText, '\r' ∈ entry) ↔
      Text.HasInnerReturn text.toList := by
  rw [← Text.exists_return_in_trimmed_iff]
  simp [commentLines, commentText]

/-- The comment lines at the top of a script have a carriage return exactly when the name has one
that does not belong to a line end, or the description one with more than blanks behind it. -/
theorem return_mem_header_iff :
    (∃ entry ∈ (headerLines schema dialect time).map commentText, '\r' ∈ entry) ↔
      Text.HasLoneReturn schema.name.toList ∨ Text.HasInnerReturn schema.description.toList := by
  have label : '\r' ∉ dialect.label.toList := by cases dialect <;> decide
  have point (time : Timestamp) : '\r' ∉ time.textToSecond.toList := fun member =>
    absurd (mem_textToSecond member) (by decide)
  rw [← return_mem_commentLines_iff, ← Text.return_mem_onOneLine_iff]
  simp [headerLines, commentText, or_and_right, exists_or, label, point]

/-- The comment lines of a routine have a carriage return exactly when its comment has one with more
than blanks behind it on its line. -/
theorem return_mem_routineComment_iff :
    (∃ entry ∈ (routineComment routine).map commentText, '\r' ∈ entry) ↔
      ∃ text ∈ routine.comment, Text.HasInnerReturn text.toList := by
  unfold routineComment
  cases routine.comment with
  | none => simp
  | some text => simpa using return_mem_commentLines_iff text

end Entries

/-- Every comment line of a script and of a routine starts with two dashes and has no line feed.
Where a comment may end at a carriage return as well, such a line is a comment as a whole exactly
when it has none, and up to the first one otherwise. Lines at the top of a script have carriage
returns only from the name of the schema, which keeps those that do not belong to line ends, and
from its description, which keeps those with more than blanks behind them on their lines, and lines
of a routine only from its comment, which is treated as a description is. -/
theorem lone_returns_end_comments (dialect : Dialect) (schema : Schema) (time : Option Timestamp)
    (routine : Routine) :
    let header := (headerLines schema dialect time).map commentText
    let comment := (routineComment routine).map commentText
    (∀ entry ∈ header ++ comment, ['-', '-'] <+: entry ∧ '\n' ∉ entry
        ∧ (IsWholeComment dialect entry ↔ '\r' ∉ entry)
        ∧ ∀ front back, entry = front ++ '\r' :: back → '\r' ∉ front → ∀ rest,
          scan dialect .plain (withFeeds (entry ++ rest)) =
            (scan dialect .plain (withFeeds (back ++ rest))).after
              (lettersAs .comment front ++ lettersAs .plain ['\n']))
      ∧ ((∃ entry ∈ header, '\r' ∈ entry) ↔
        Text.HasLoneReturn schema.name.toList ∨ Text.HasInnerReturn schema.description.toList)
      ∧ ((∃ entry ∈ comment, '\r' ∈ entry) ↔
        ∃ text ∈ routine.comment, Text.HasInnerReturn text.toList) := by
  refine ⟨fun entry member => ?_, return_mem_header_iff, return_mem_routineComment_iff⟩
  obtain ⟨line, isLine, rfl⟩ : ∃ line ∈ headerLines schema dialect time ++ routineComment routine,
      commentText line = entry := by
    rwa [← List.map_append, List.mem_map] at member
  have oneLine : '\n' ∉ line.toList := by
    rcases List.mem_append.1 isLine with inHeader | inComment
    · exact oneLine_of_mem_headerLines inHeader
    · exact oneLine_of_mem_routineComment inComment
  refine ⟨⟨line.toList, rfl⟩, by simpa [commentText] using oneLine,
    isWholeComment_iff dialect oneLine, fun front back same first rest => ?_⟩
  cases front with
  | nil => simp [commentText] at same
  | cons dash front =>
      cases front with
      | nil => simp [commentText] at same
      | cons other front =>
          simp only [commentText, List.cons_append, List.cons.injEq] at same
          obtain ⟨rfl, rfl, same⟩ := same
          have inFront : '\n' ∉ front := fun feed => oneLine (by simp [same, feed])
          have noReturn : '\r' ∉ front := fun member => first (by simp [member])
          simpa [commentText, same] using scan_up_to_return dialect (back ++ rest) inFront noReturn

/-- A routine whose comment goes on behind a carriage return. -/
def returnRoutine : Routine where
  id := "routine"
  name := "purge"
  parameters := []
  returnType := none
  body := "DELETE FROM users;"
  language := some "sql"
  comment := some "Removes users\rwho have left.\r\n"

/-- A schema whose name goes on behind a carriage return. -/
def returnSchema : Schema where
  id := "schema"
  name := "shop\rDROP TABLE users;"
  description := "Made by hand.\r\nDo not run. \r"
  dialect := .postgresql
  tables := []
  relationships := []
  routines := [returnRoutine]
  createdAt := default
  updatedAt := default

/-- The name of the schema brings a carriage return into the comments at the top of its script, the
description brings none, and the line of the name is a comment up to the carriage return only. The
comment of the routine brings one into its comment lines. -/
theorem lone_returns_end_comments_in_returnSchema :
    let entry := commentText " Schema: shop\rDROP TABLE users;"
    entry ∈ (headerLines returnSchema .postgresql none).map commentText
      ∧ Text.HasLoneReturn returnSchema.name.toList
      ∧ ¬Text.HasInnerReturn returnSchema.description.toList
      ∧ (∃ entry ∈ (headerLines returnSchema .postgresql none).map commentText, '\r' ∈ entry)
      ∧ ¬IsWholeComment .postgresql entry
      ∧ ∃ entry ∈ (routineComment returnRoutine).map commentText, '\r' ∈ entry := by
  intro entry
  have isEntry : entry ∈ (headerLines returnSchema .postgresql none).map commentText := by decide
  have lone : Text.HasLoneReturn returnSchema.name.toList := by decide
  obtain ⟨entries, header, comment⟩ :=
    lone_returns_end_comments .postgresql returnSchema none returnRoutine
  obtain ⟨-, -, whole, -⟩ := entries entry (List.mem_append_left _ isEntry)
  refine ⟨isEntry, lone, by decide, header.2 (.inl lone), fun isWhole => ?_, comment.2 ?_⟩
  · exact absurd (whole.1 isWhole) (by decide)
  · exact ⟨_, rfl, by decide⟩

/-- The words of that name behind the carriage return are read as a statement. -/
theorem name_leaves_comment_at_return :
    let entry := commentText (" Schema: " ++ Text.onOneLine returnSchema.name)
    entry ∈ (headerLines returnSchema .postgresql none).map commentText ∧ '\r' ∈ entry
      ∧ segments (scan .postgresql .plain (withFeeds (entry ++ ['\n']))).letters =
        ["DROP TABLE users".toList, []] := by
  intro entry
  refine ⟨List.mem_map_of_mem (.head _), by decide, ?_⟩
  have text : entry ++ ['\n'] = '-' :: '-' :: (" Schema: shop".toList
      ++ '\r' :: ("DROP TABLE users".toList ++ [';', '\n'])) := by
    decide
  rw [text, scan_up_to_return _ _ (by decide) (by decide), withFeeds_eq_self (by decide),
    scan_calm _ _ (by decide), scan_semicolon, ← List.append_nil ['\n'],
    scan_calm _ _ (by decide), scan]
  decide

end DbSchema.Sql
