import DbSchema.Proofs.Sql.Legibility
import DbSchema.Sql.Script

/-!
# The literals of a row of pieces

`literalTexts` are the texts that literals of a row are made from. In a row that `IsFenced`, each of
these literals is followed by something else than a quote mark, so that a reader of literals can
find its end, whatever verbatim text the row has in other places.
-/

namespace DbSchema.Sql

/-- The text of a literal. -/
@[simp] def Piece.literalText? : Piece → Option String
  | literal text => some text
  | _ => none

/-- The texts of the literals among pieces. -/
def literalTexts (pieces : List Piece) : List String :=
  pieces.filterMap Piece.literalText?

/-- Whether a literal ends in front of pieces: there are none, or plain text comes first, and no
quote mark at its start. -/
def StopsLiteral : List Piece → Prop
  | [] => True
  | .plain text :: _ => text.toList.head?.any (· != '\'') = true
  | _ => False

/-- Whether every literal of a row ends where the piece does. -/
def IsFenced : List Piece → Prop
  | [] => True
  | .literal _ :: rest => StopsLiteral rest ∧ IsFenced rest
  | _ :: rest => IsFenced rest

section Texts

@[simp] theorem literalTexts_nil : literalTexts [] = [] := rfl

@[simp] theorem literalTexts_cons (piece : Piece) (pieces : List Piece) :
    literalTexts (piece :: pieces) = piece.literalText?.toList ++ literalTexts pieces := by
  cases piece <;> rfl

@[simp] theorem literalTexts_append (left right : List Piece) :
    literalTexts (left ++ right) = literalTexts left ++ literalTexts right :=
  List.filterMap_append

/-- Text between groups has no literals. -/
@[simp] theorem literalTexts_separated (separator : String) (groups : List (List Piece)) :
    literalTexts (Piece.separated separator groups) = groups.flatMap literalTexts := by
  induction groups with
  | nil => rfl
  | cons group groups inductionHypothesis =>
      cases groups with
      | nil => simp [Piece.separated]
      | cons next groups => simp [separated_cons_cons, inductionHypothesis]

@[simp] theorem literalTexts_names (texts : List String) :
    literalTexts (Piece.names texts) = [] := by
  simp [Piece.names, List.flatMap_map]

@[simp] theorem literalTexts_literals (texts : List String) :
    literalTexts (Piece.literals texts) = texts := by
  simp [Piece.literals, List.flatMap_map]

@[simp] theorem literalTexts_commentPieces (lines : List String) :
    literalTexts (commentPieces lines) = [] := by
  induction lines with
  | nil => rfl
  | cons line lines inductionHypothesis =>
      simpa [commentPieces] using inductionHypothesis

@[simp] theorem literalTexts_tableName (table : TableName) : literalTexts table.pieces = [] := by
  unfold TableName.pieces
  split <;> simp

/-- An optional part has the literals of the part. -/
@[simp] theorem literalTexts_optional {α : Type} (pieces : α → List Piece) (part : Option α) :
    literalTexts (optionalPieces pieces part) = part.toList.flatMap (literalTexts ∘ pieces) := by
  cases part <;> simp [optionalPieces]

@[simp] theorem literalTexts_referenceClause (clause : ReferenceClause) :
    literalTexts clause.pieces = [] := by
  unfold ReferenceClause.pieces
  cases clause.onUpdate <;> simp

@[simp] theorem literalTexts_elementPieces (elements : List TableElement) :
    literalTexts (elementPieces elements) =
      elements.flatMap fun element => literalTexts element.pieces := by
  simp [elementPieces, List.flatMap_map]

/-- The literals of a section are those of its statements. -/
theorem literalTexts_section (part : Section) :
    literalTexts part.pieces =
      part.entries.flatten.flatMap fun statement => literalTexts statement.core := by
  unfold Section.pieces
  split
  case isTrue empty => simp [List.isEmpty_iff.1 empty]
  case isFalse =>
    rw [← List.flatMap_id, List.flatMap_assoc]
    simp [entryPieces, Statement.pieces, List.flatMap_map]

end Texts

section Rows

/-- Pieces that may follow a literal may do so with others behind them. -/
theorem StopsLiteral.append {left right : List Piece} (stopsLeft : StopsLiteral left)
    (stopsRight : StopsLiteral right) : StopsLiteral (left ++ right) := by
  cases left with
  | nil => exact stopsRight
  | cons piece left => cases piece <;> exact stopsLeft

/-- Two rows make one, if the second may follow a literal. -/
theorem IsFenced.append {left right : List Piece} (fencedLeft : IsFenced left)
    (fencedRight : IsFenced right) (stops : StopsLiteral right) : IsFenced (left ++ right) := by
  induction left with
  | nil => exact fencedRight
  | cons piece left inductionHypothesis =>
      cases piece with
      | literal text => exact ⟨fencedLeft.1.append stops, inductionHypothesis fencedLeft.2⟩
      | plain | name | verbatim | comment | body => exact inductionHypothesis fencedLeft

/-- Pieces without literals may stand in front of every row. -/
theorem IsFenced.behind {left right : List Piece} (fenced : IsFenced right)
    (none : literalTexts left = []) : IsFenced (left ++ right) := by
  induction left with
  | nil => exact fenced
  | cons piece left inductionHypothesis =>
      cases piece with
      | literal text => simp at none
      | plain | name | verbatim | comment | body =>
          exact inductionHypothesis (by simpa using none)

theorem isFenced_of_none {pieces : List Piece} (none : literalTexts pieces = []) :
    IsFenced pieces := by
  have fenced : IsFenced (pieces ++ []) := IsFenced.behind trivial none
  rwa [List.append_nil] at fenced

/-- Rows with the same text between each two make one. -/
theorem isFenced_separated {separator : String} {groups : List (List Piece)}
    (stops : separator.toList.head?.any (· != '\'') = true)
    (fenced : ∀ group ∈ groups, IsFenced group) :
    IsFenced (Piece.separated separator groups) := by
  induction groups with
  | nil => trivial
  | cons group groups inductionHypothesis =>
      have here := fenced group (.head _)
      have behind := inductionHypothesis fun other member => fenced other (.tail _ member)
      cases groups with
      | nil => exact here
      | cons next groups => exact here.append behind stops

theorem isFenced_literals (texts : List String) : IsFenced (Piece.literals texts) := by
  refine isFenced_separated (by decide) fun group member => ?_
  obtain ⟨text, -, rfl⟩ := List.mem_map.1 member
  exact ⟨trivial, trivial⟩

theorem stopsLiteral_optional {α : Type} {pieces : α → List Piece} (part : Option α)
    (stops : ∀ value, StopsLiteral (pieces value)) :
    StopsLiteral (optionalPieces pieces part) := by
  cases part with
  | none => trivial
  | some value => exact stops value

/-- A section is fenced, if its statements are, and may follow a literal. -/
theorem isFenced_section {part : Section}
    (fenced : ∀ statement ∈ part.entries.flatten, IsFenced statement.pieces) :
    IsFenced part.pieces ∧ StopsLiteral part.pieces := by
  have gap : (if part.spaced then "\n\n" else "\n").toList.head?.any (· != '\'') = true := by
    split <;> rfl
  have entries : IsFenced (Piece.separated (if part.spaced then "\n\n" else "\n")
      (part.entries.map entryPieces)) := by
    refine isFenced_separated gap fun group member => ?_
    obtain ⟨entry, inPart, rfl⟩ := List.mem_map.1 member
    refine isFenced_separated (by decide) fun group member => ?_
    obtain ⟨statement, inEntry, rfl⟩ := List.mem_map.1 member
    exact fenced statement (List.mem_flatten.2 ⟨entry, inPart, inEntry⟩)
  unfold Section.pieces
  split
  · exact ⟨trivial, trivial⟩
  · exact ⟨(entries.behind rfl).append trivial rfl, rfl⟩

/-- So are sections in a row. -/
theorem isFenced_sections {parts : List Section}
    (fenced : ∀ part ∈ parts, ∀ statement ∈ part.entries.flatten, IsFenced statement.pieces) :
    IsFenced (parts.flatMap Section.pieces) ∧ StopsLiteral (parts.flatMap Section.pieces) := by
  induction parts with
  | nil => exact ⟨trivial, trivial⟩
  | cons part parts inductionHypothesis =>
      obtain ⟨fencedHere, stopsHere⟩ := isFenced_section (fenced part (.head _))
      obtain ⟨fencedBehind, stopsBehind⟩ :=
        inductionHypothesis fun other member => fenced other (.tail _ member)
      exact ⟨fencedHere.append fencedBehind stopsBehind, stopsHere.append stopsBehind⟩

/-- What stands behind a literal of a fenced row stops it. -/
theorem IsFenced.stopsLiteral {front behind : List Piece} {text : String}
    (fenced : IsFenced (front ++ .literal text :: behind)) : StopsLiteral behind := by
  induction front with
  | nil => exact fenced.1
  | cons piece front inductionHypothesis =>
      cases piece with
      | literal => exact inductionHypothesis fenced.2
      | plain | name | verbatim | comment | body => exact inductionHypothesis fenced

/-- No quote mark starts the text of pieces that may follow a literal. -/
theorem StopsLiteral.head?_ne {pieces : List Piece} (stops : StopsLiteral pieces) (quote : Char) :
    (Piece.textOf quote pieces).head? ≠ some '\'' := by
  cases pieces with
  | nil => simp
  | cons piece pieces =>
      cases piece with
      | plain text =>
          cases characters : text.toList with
          | nil => simp [StopsLiteral, characters] at stops
          | cons first rest => simpa [StopsLiteral, characters, Piece.text] using stops
      | name | literal | verbatim | comment | body => exact stops.elim

end Rows

end DbSchema.Sql
