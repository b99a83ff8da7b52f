import DbSchema.Proofs.Sql.Lexer
import DbSchema.Sql.Piece

/-!
# Reading pieces back

`scan_textOf` says that a database reads a row of pieces as what they are, piece by piece. What it
takes is that the row is `Legible`: it has no comments, plain text is calm, a quoted piece is
followed by plain text, and the tag of a body does not occur in it. Nothing in such a row ends a
statement.
-/

namespace DbSchema.Sql

/-- What a piece is to be read as. -/
def Piece.role : Piece → Role
  | plain _ | verbatim _ => .plain
  | name _ | literal _ => .quoted
  | comment _ => .comment
  | body _ _ => .body

/-- The letters that pieces are to be read as. -/
def lettersOf (quote : Char) (pieces : List Piece) : List Letter :=
  pieces.flatMap fun piece => lettersAs piece.role (piece.text quote)

/-- Whether pieces may stand behind a quoted piece: there are none, or plain text comes first. -/
def Joins : List Piece → Prop
  | [] => True
  | .plain text :: _ => text ≠ ""
  | _ => False

/-- Whether every piece of a row is read as what it is, when no quote mark follows the row. -/
def Legible (dialect : Dialect) : List Piece → Prop
  | [] => True
  | .plain text :: rest | .verbatim text :: rest => isCalm text.toList ∧ Legible dialect rest
  | .name _ :: rest | .literal _ :: rest => Joins rest ∧ Legible dialect rest
  | .comment _ :: _ => False
  | .body tag text :: rest =>
    dialect = .postgresql ∧ IsDollarTag tag.toList ∧ ¬tag.toList <:+: text.toList
      ∧ Legible dialect rest

@[simp] theorem lettersOf_nil (quote : Char) : lettersOf quote [] = [] := rfl

@[simp] theorem lettersOf_cons (quote : Char) (piece : Piece) (pieces : List Piece) :
    lettersOf quote (piece :: pieces) =
      lettersAs piece.role (piece.text quote) ++ lettersOf quote pieces := rfl

@[simp] theorem lettersOf_append (quote : Char) (left right : List Piece) :
    lettersOf quote (left ++ right) = lettersOf quote left ++ lettersOf quote right := by
  simp [lettersOf]

@[simp] theorem textOf_nil (quote : Char) : Piece.textOf quote [] = [] := rfl

@[simp] theorem textOf_cons (quote : Char) (piece : Piece) (pieces : List Piece) :
    Piece.textOf quote (piece :: pieces) = piece.text quote ++ Piece.textOf quote pieces := rfl

@[simp] theorem textOf_append (quote : Char) (left right : List Piece) :
    Piece.textOf quote (left ++ right) = Piece.textOf quote left ++ Piece.textOf quote right := by
  simp [Piece.textOf]

/-- Letters have the characters of the text. -/
theorem map_character_lettersOf (quote : Char) (pieces : List Piece) :
    (lettersOf quote pieces).map Letter.character = Piece.textOf quote pieces := by
  induction pieces with
  | nil => rfl
  | cons piece pieces inductionHypothesis => simp [inductionHypothesis]

section Separated

variable {quote : Char} {separator : String} {groups : List (List Piece)} {letter : Letter}

/-- Two groups and more have the text between the first of them and the others. -/
theorem separated_cons_cons (group next : List Piece) :
    Piece.separated separator (group :: next :: groups) =
      group ++ .plain separator :: Piece.separated separator (next :: groups) := rfl

/-- The letters of groups with a text between each two are those of the groups and of the text. -/
theorem mem_lettersOf_separated
    (member : letter ∈ lettersOf quote (Piece.separated separator groups)) :
    letter ∈ lettersAs .plain separator.toList
      ∨ ∃ group ∈ groups, letter ∈ lettersOf quote group := by
  induction groups with
  | nil => simp [Piece.separated] at member
  | cons group groups inductionHypothesis =>
      cases groups with
      | nil => exact .inr ⟨group, .head _, member⟩
      | cons next groups =>
          rw [separated_cons_cons, lettersOf_append, lettersOf_cons, List.mem_append,
            List.mem_append] at member
          rcases member with here | between | behind
          · exact .inr ⟨group, .head _, here⟩
          · exact .inl between
          · rcases inductionHypothesis behind with between | ⟨other, later, inOther⟩
            · exact .inl between
            · exact .inr ⟨other, .tail _ later, inOther⟩

/-- The letters of quoted pieces with a text between each two are quoted or those of the text. -/
theorem role_of_mem_separated
    (quoted : ∀ group ∈ groups, ∀ piece ∈ group, piece.role = .quoted)
    (member : letter ∈ lettersOf quote (Piece.separated separator groups)) :
    letter.role = .quoted ∨ letter ∈ lettersAs .plain separator.toList := by
  rcases mem_lettersOf_separated member with between | ⟨group, inGroups, inGroup⟩
  · exact .inr between
  · obtain ⟨piece, isPiece, inPiece⟩ := List.mem_flatMap.1 inGroup
    exact .inl ((mem_lettersAs.1 inPiece).2.trans (quoted group inGroups piece isPiece))

end Separated

section Rows

variable {dialect : Dialect}

/-- Two rows make one, if the second may stand behind a quoted piece. -/
theorem legible_append {left right : List Piece} (legibleLeft : Legible dialect left)
    (legibleRight : Legible dialect right) (joins : Joins right) :
    Legible dialect (left ++ right) := by
  have joinsRow (row : List Piece) (joinsRow : Joins row) : Joins (row ++ right) := by
    cases row with
    | nil => exact joins
    | cons piece row => cases piece <;> exact joinsRow
  induction left with
  | nil => exact legibleRight
  | cons piece left inductionHypothesis =>
      cases piece with
      | plain text | verbatim text =>
          exact ⟨legibleLeft.1, inductionHypothesis legibleLeft.2⟩
      | name text | literal text =>
          exact ⟨joinsRow left legibleLeft.1, inductionHypothesis legibleLeft.2⟩
      | comment => exact legibleLeft.elim
      | body tag text =>
          obtain ⟨hasBodies, isTag, absent, legible⟩ := legibleLeft
          exact ⟨hasBodies, isTag, absent, inductionHypothesis legible⟩

/-- Rows with the same text between each two make one. -/
theorem legible_separated {separator : String} {groups : List (List Piece)}
    (calm : isCalm separator.toList = true) (nonempty : separator ≠ "")
    (legible : ∀ group ∈ groups, Legible dialect group) :
    Legible dialect (Piece.separated separator groups) := by
  induction groups with
  | nil => trivial
  | cons group groups inductionHypothesis =>
      cases groups with
      | nil => exact legible group (by simp)
      | cons next groups =>
          have behind := inductionHypothesis fun group member => legible group (by simp [member])
          exact legible_append (legible group (by simp)) ⟨calm, behind⟩ nonempty

/-- Names with commas between them are legible. -/
theorem legible_names (texts : List String) : Legible dialect (Piece.names texts) :=
  legible_separated (by decide) (by decide) (by simp [Legible, Joins])

/-- Literals with commas between them are legible. -/
theorem legible_literals (texts : List String) : Legible dialect (Piece.literals texts) :=
  legible_separated (by decide) (by decide) (by simp [Legible, Joins])

/-- No quote mark starts what may stand behind a quoted piece. -/
theorem head?_ne_mark {mark : Char} {pieces : List Piece} {rest : List Char}
    (isMark : mark = dialect.quoteMark ∨ mark = '\'') (legible : Legible dialect pieces)
    (joins : Joins pieces) (ends : rest.head? ≠ some mark) :
    (Piece.textOf dialect.quoteMark pieces ++ rest).head? ≠ some mark := by
  cases pieces with
  | nil => exact ends
  | cons piece pieces =>
      cases piece with
      | plain text =>
          have calm : isCalm text.toList := legible.1
          cases characters : text.toList with
          | nil => exact absurd (String.toList_eq_nil_iff.1 characters) joins
          | cons first others =>
              rw [characters, isCalm, Bool.and_eq_true, Bool.and_eq_true] at calm
              have noMark := ne_mark_of_ordinary dialect calm.1.1
              simp only [textOf_cons, Piece.text, characters, List.cons_append, List.head?_cons,
                ne_eq, Option.some.injEq]
              rintro rfl
              rcases isMark with same | same
              · exact noMark.1 same
              · exact noMark.2 same
      | name | literal | verbatim | comment | body => exact joins.elim

/-- A legible row is read as the pieces it consists of, whatever follows it but a quote mark. -/
theorem scan_textOf {pieces : List Piece} {rest : List Char} (legible : Legible dialect pieces)
    (ends : rest.head? ≠ some dialect.quoteMark ∧ rest.head? ≠ some '\'') :
    scan dialect .plain (Piece.textOf dialect.quoteMark pieces ++ rest) =
      (scan dialect .plain rest).after (lettersOf dialect.quoteMark pieces) := by
  induction pieces with
  | nil => rfl
  | cons piece pieces inductionHypothesis =>
      rw [textOf_cons, List.append_assoc, lettersOf_cons, ← Scan.after_after]
      cases piece with
      | plain text | verbatim text =>
          rw [Piece.text, scan_calm dialect _ legible.1, inductionHypothesis legible.2, Piece.role]
      | name text =>
          have behind := head?_ne_mark (.inl rfl) legible.2 legible.1 ends.1
          rw [Piece.text, scan_quoted dialect text (.inl rfl) behind, inductionHypothesis legible.2,
            Piece.role]
      | literal text =>
          have behind := head?_ne_mark (.inr rfl) legible.2 legible.1 ends.2
          rw [Piece.text, Text.quoteLiteral, scan_quoted dialect text (.inr rfl) behind,
            inductionHypothesis legible.2, Piece.role]
      | comment => exact legible.elim
      | body tag text =>
          obtain ⟨rfl, isTag, absent, legibleRest⟩ := legible
          rw [← inductionHypothesis legibleRest, Piece.text, Piece.role]
          simpa using scan_body _ isTag absent

/-- No letter of a legible row belongs to a comment or ends a statement. -/
theorem legible_letters {pieces : List Piece} (legible : Legible dialect pieces) {letter : Letter}
    (member : letter ∈ lettersOf dialect.quoteMark pieces) :
    letter.role ≠ .comment ∧ letter.isSemicolon = false := by
  have calmLetter {text : List Char} (calm : isCalm text = true)
      (member : letter ∈ lettersAs .plain text) :
      letter.role ≠ .comment ∧ letter.isSemicolon = false := by
    obtain ⟨character, inText, rfl⟩ := List.mem_map.1 member
    have ordinary := isOrdinary_of_mem_calm calm inText
    simp only [isOrdinary, Bool.and_eq_true, bne_iff_ne] at ordinary
    simp [Letter.isSemicolon, ordinary.2]
  have otherLetter {role : Role} {text : List Char} (other : role ≠ .comment ∧ role ≠ .plain)
      (member : letter ∈ lettersAs role text) :
      letter.role ≠ .comment ∧ letter.isSemicolon = false := by
    obtain ⟨character, -, rfl⟩ := List.mem_map.1 member
    simp [Letter.isSemicolon, other]
  induction pieces with
  | nil => simp at member
  | cons piece pieces inductionHypothesis =>
      rw [lettersOf_cons, List.mem_append] at member
      cases piece with
      | plain text | verbatim text =>
          exact member.elim (calmLetter legible.1) (inductionHypothesis legible.2)
      | name text | literal text =>
          exact member.elim (otherLetter (by simp [Piece.role])) (inductionHypothesis legible.2)
      | comment => exact legible.elim
      | body tag text =>
          exact member.elim (otherLetter (by simp [Piece.role])) (inductionHypothesis legible.2.2.2)

end Rows

end DbSchema.Sql
