import DbSchema.Sql.Feature
import DbSchema.Text.Blank
import DbSchema.Text.Quoted

/-!
# A lexer of SQL text

How a database cuts SQL text into statements. `scan` is the authority on what a character belongs
to: it knows plain text, comments, quoted names and literals, and bodies between dollar tags, and
nothing about how the text was made. `segments` then cuts at the semicolons of plain text.

The lemmas about `scan` say how each of these is read when it stands in front of any other text.
-/

namespace DbSchema.Sql

/-- What a character of SQL text was read as. -/
inductive Role where
  | plain
  | comment
  | quoted
  | body
  deriving DecidableEq, Repr

/-- A character with its role. -/
structure Letter where
  character : Char
  role : Role
  deriving DecidableEq, Repr

/-- What the lexer is inside of: a text between quotes knows its mark, a body its opening tag. -/
inductive Mode where
  | plain
  | comment
  | quoted (mark : Char)
  | body (tag : List Char)
  deriving DecidableEq, Repr

/-- The letters of a text, and what the lexer is inside of behind them. -/
structure Scan where
  letters : List Letter
  ending : Mode
  deriving DecidableEq, Repr

/-- The characters with one role for all of them. -/
def lettersAs (role : Role) (text : List Char) : List Letter :=
  text.map fun character => ⟨character, role⟩

/-- The scan with more letters in front. -/
def Scan.after (scan : Scan) (letters : List Letter) : Scan :=
  { scan with letters := letters ++ scan.letters }

/-- Whether a character may stand in a dollar tag. -/
def isTagCharacter (character : Char) : Bool :=
  character.isAlphanum || character = '_' || 0x80 ≤ character.toNat

/-- The dollar tag at the start of a text: a name between dollar signs, or nothing between them. A
name does not start with a digit. -/
def dollarTag? : List Char → Option (List Char)
  | [] => none
  | first :: rest =>
    let name := rest.takeWhile isTagCharacter
    if first = '$' && (rest.drop name.length).head? = some '$' && !name.head?.any Char.isDigit then
      some ('$' :: (name ++ ['$']))
    else none

/-- The tag that opens a body at the start of a text, in a dialect that has such bodies. -/
def openingTag? (dialect : Dialect) (text : List Char) : Option (List Char) :=
  match dialect with
  | .postgresql => dollarTag? text
  | .mysql => none

/-- Whether a character and what follows it start a comment. -/
def opensComment (character : Char) (rest : List Char) : Bool :=
  character = '-' && rest.head? = some '-'

/-- Reads a text in a mode. Two dashes start a comment, which a line feed ends. A quote mark starts
a quoted text, in which the mark stands for itself when it is doubled and is the end otherwise. A
dollar tag starts a body, which the next occurrence of the tag ends. -/
def scan (dialect : Dialect) : Mode → List Char → Scan
  | mode, [] => ⟨[], mode⟩
  | .plain, character :: rest =>
    if opensComment character rest then
      (scan dialect .comment rest).after [⟨character, .comment⟩]
    else if character = dialect.quoteMark || character = '\'' then
      (scan dialect (.quoted character) rest).after [⟨character, .quoted⟩]
    else
      match openingTag? dialect (character :: rest) with
      | some tag =>
        (scan dialect (.body tag) (rest.drop (tag.length - 1))).after (lettersAs .body tag)
      | none => (scan dialect .plain rest).after [⟨character, .plain⟩]
  | .comment, character :: rest =>
    if character = '\n' then (scan dialect .plain rest).after [⟨character, .plain⟩]
    else (scan dialect .comment rest).after [⟨character, .comment⟩]
  | .quoted mark, character :: rest =>
    if character = mark then
      if rest.head? = some mark then
        (scan dialect (.quoted mark) (rest.drop 1)).after (lettersAs .quoted [mark, mark])
      else (scan dialect .plain rest).after [⟨character, .quoted⟩]
    else (scan dialect (.quoted mark) rest).after [⟨character, .quoted⟩]
  | .body tag, character :: rest =>
    if tag.isPrefixOf (character :: rest) then
      (scan dialect .plain (rest.drop (tag.length - 1))).after (lettersAs .body tag)
    else (scan dialect (.body tag) rest).after [⟨character, .body⟩]
  termination_by _ text => text.length
  decreasing_by all_goals simp only [List.length_cons, List.length_drop]; omega

/-- Whether a letter ends a statement. -/
def Letter.isSemicolon (letter : Letter) : Bool :=
  letter.character = ';' && letter.role = .plain

/-- What letters say: their characters without comments, and without the blanks around. -/
def bareText (letters : List Letter) : List Char :=
  let said := letters.filter fun letter => letter.role != .comment
  Text.trimEnd (Text.trimStart (said.map Letter.character))

/-- What stands before, between and behind the semicolons. -/
def segments (letters : List Letter) : List (List Char) :=
  (letters.splitOnP Letter.isSemicolon).map bareText

section Joining

@[simp] theorem lettersAs_nil (role : Role) : lettersAs role [] = [] := rfl

@[simp] theorem lettersAs_cons (role : Role) (character : Char) (text : List Char) :
    lettersAs role (character :: text) = ⟨character, role⟩ :: lettersAs role text := rfl

@[simp] theorem lettersAs_append (role : Role) (left right : List Char) :
    lettersAs role (left ++ right) = lettersAs role left ++ lettersAs role right := by
  simp [lettersAs]

@[simp] theorem map_character_lettersAs (role : Role) (text : List Char) :
    (lettersAs role text).map Letter.character = text := by
  simp [lettersAs, Function.comp_def]

/-- The letters of characters that have one role. -/
theorem mem_lettersAs {role : Role} {text : List Char} {letter : Letter} :
    letter ∈ lettersAs role text ↔ letter.character ∈ text ∧ letter.role = role := by
  constructor
  · intro member
    obtain ⟨character, inText, rfl⟩ := List.mem_map.1 member
    exact ⟨inText, rfl⟩
  · rintro ⟨inText, rfl⟩
    exact List.mem_map.2 ⟨letter.character, inText, rfl⟩

@[simp] theorem Scan.after_nil (scan : Scan) : scan.after [] = scan := rfl

@[simp] theorem Scan.after_after (scan : Scan) (first second : List Letter) :
    (scan.after second).after first = scan.after (first ++ second) := by
  simp [Scan.after]

end Joining

section Reading

variable (dialect : Dialect)

/-- A character that by itself neither starts nor ends anything. -/
def isOrdinary (character : Char) : Bool :=
  character != '"' && character != '\x60' && character != '\'' && character != '$'
    && character != ';'

/-- A text is calm when no character of it starts or ends anything: it has no quote marks, dollar
signs or semicolons, and every dash in it is followed by something else than a dash. -/
def isCalm : List Char → Bool
  | [] => true
  | character :: rest =>
    isOrdinary character && (character != '-' || rest.head?.any (· != '-')) && isCalm rest

/-- Every character of a calm text is ordinary. -/
theorem isOrdinary_of_mem_calm {text : List Char} (calm : isCalm text = true) {character : Char}
    (member : character ∈ text) : isOrdinary character = true := by
  induction text with
  | nil => simp at member
  | cons first text inductionHypothesis =>
      simp only [isCalm, Bool.and_eq_true] at calm
      rcases List.mem_cons.1 member with rfl | member
      · exact calm.1.1
      · exact inductionHypothesis calm.2 member

/-- Calm texts in a row are calm. -/
theorem isCalm_append {left right : List Char} (calmLeft : isCalm left = true)
    (calmRight : isCalm right = true) : isCalm (left ++ right) = true := by
  induction left with
  | nil => exact calmRight
  | cons character rest inductionHypothesis =>
      simp only [isCalm, Bool.and_eq_true] at calmLeft
      obtain ⟨⟨ordinary, dash⟩, calmRest⟩ := calmLeft
      have followed : (character != '-' || (rest ++ right).head?.any (· != '-')) = true := by
        cases rest with
        | nil => simp_all
        | cons => simpa using dash
      simp only [List.cons_append, isCalm, ordinary, followed, inductionHypothesis calmRest,
        Bool.and_self]

/-- An ordinary character opens no body. -/
theorem openingTag?_ordinary {character : Char} (rest : List Char)
    (ordinary : isOrdinary character = true) :
    openingTag? dialect (character :: rest) = none := by
  cases dialect with
  | mysql => rfl
  | postgresql =>
      have other : character ≠ '$' := by
        simp only [isOrdinary, Bool.and_eq_true, bne_iff_ne] at ordinary
        exact ordinary.1.2
      simp [openingTag?, dollarTag?, other]

/-- An ordinary character is no quote mark. -/
theorem ne_mark_of_ordinary {character : Char} (ordinary : isOrdinary character = true) :
    character ≠ dialect.quoteMark ∧ character ≠ '\'' := by
  simp only [isOrdinary, Bool.and_eq_true, bne_iff_ne] at ordinary
  cases dialect <;> simp_all [Dialect.quoteMark]

/-- Calm text is plain, whatever follows it. -/
theorem scan_calm {text : List Char} (rest : List Char) (calm : isCalm text = true) :
    scan dialect .plain (text ++ rest) =
      (scan dialect .plain rest).after (lettersAs .plain text) := by
  induction text with
  | nil => rfl
  | cons character text inductionHypothesis =>
      simp only [isCalm, Bool.and_eq_true] at calm
      obtain ⟨⟨ordinary, dash⟩, calmText⟩ := calm
      have noComment : opensComment character (text ++ rest) = false := by
        rcases Decidable.em (character = '-') with rfl | other
        · cases text <;> simp_all [opensComment]
        · simp [opensComment, other]
      have noMark := ne_mark_of_ordinary dialect ordinary
      rw [List.cons_append, scan]
      simp [noComment, noMark, openingTag?_ordinary dialect (text ++ rest) ordinary,
        inductionHypothesis calmText]

/-- A semicolon is plain, whatever follows it. -/
theorem scan_semicolon (rest : List Char) :
    scan dialect .plain (';' :: rest) = (scan dialect .plain rest).after [⟨';', .plain⟩] := by
  cases dialect <;> rw [scan] <;> simp [opensComment, Dialect.quoteMark, openingTag?, dollarTag?]

/-- Inside quotes, doubled characters are read up to the closing mark, if another mark does not
follow it. -/
theorem scan_doubled {mark : Char} (text : List Char) {rest : List Char}
    (ends : rest.head? ≠ some mark) :
    scan dialect (.quoted mark) (Text.doubled mark text ++ mark :: rest) =
      (scan dialect .plain rest).after
        (lettersAs .quoted (Text.doubled mark text ++ [mark])) := by
  induction text with
  | nil =>
      rw [Text.doubled, List.nil_append, scan]
      simp [ends]
  | cons character text inductionHypothesis =>
      by_cases same : character = mark
      · rw [Text.doubled, if_pos same, List.cons_append, List.cons_append, scan]
        simp [inductionHypothesis]
      · rw [Text.doubled, if_neg same, List.cons_append, scan]
        simp [same, inductionHypothesis]

/-- A text between quotes is read as a whole, if another mark does not follow it. -/
theorem scan_quoted {mark : Char} (text : String) {rest : List Char}
    (isMark : mark = dialect.quoteMark ∨ mark = '\'') (ends : rest.head? ≠ some mark) :
    scan dialect .plain ((Text.quoteWith mark text).toList ++ rest) =
      (scan dialect .plain rest).after
        (lettersAs .quoted (Text.quoteWith mark text).toList) := by
  have noDash : mark ≠ '-' := by
    rintro rfl
    cases dialect <;> simp_all [Dialect.quoteMark]
  rw [Text.toList_quoteWith, List.cons_append, scan]
  simp [opensComment, noDash, isMark, scan_doubled dialect text.toList ends]

/-- Inside a comment, everything is read up to the end of the line. -/
theorem scan_comment_line {text : List Char} (rest : List Char) (oneLine : '\n' ∉ text) :
    scan dialect .comment (text ++ '\n' :: rest) =
      (scan dialect .plain ('\n' :: rest)).after (lettersAs .comment text) := by
  induction text with
  | nil =>
      have plain : scan dialect .plain ('\n' :: rest) =
          (scan dialect .plain rest).after (lettersAs .plain ['\n']) :=
        scan_calm dialect rest (rfl : isCalm ['\n'] = true)
      rw [List.nil_append, plain, scan]
      simp
  | cons character text inductionHypothesis =>
      rw [List.mem_cons, not_or] at oneLine
      conv => lhs; rw [List.cons_append, scan]
      simp [Ne.symm oneLine.1, inductionHypothesis oneLine.2]

/-- A comment is read up to the end of its line. -/
theorem scan_comment {text : List Char} (rest : List Char) (oneLine : '\n' ∉ text) :
    scan dialect .plain ('-' :: '-' :: (text ++ '\n' :: rest)) =
      (scan dialect .plain ('\n' :: rest)).after (lettersAs .comment ('-' :: '-' :: text)) := by
  have dashed : scan dialect .comment ('-' :: text ++ '\n' :: rest) =
      (scan dialect .plain ('\n' :: rest)).after (lettersAs .comment ('-' :: text)) :=
    scan_comment_line dialect rest (by simpa)
  conv => lhs; rw [scan]
  simpa [opensComment] using congrArg (Scan.after · [⟨'-', .comment⟩]) dashed

/-- A comment is read with the line feed behind it. -/
theorem scan_commentLine {text : List Char} (rest : List Char) (oneLine : '\n' ∉ text) :
    scan dialect .plain ('-' :: '-' :: (text ++ '\n' :: rest)) =
      (scan dialect .plain rest).after
        (lettersAs .comment ('-' :: '-' :: text) ++ lettersAs .plain ['\n']) := by
  have lineEnd : scan dialect .plain ('\n' :: rest) =
      (scan dialect .plain rest).after (lettersAs .plain ['\n']) :=
    scan_calm dialect rest (rfl : isCalm ['\n'] = true)
  rw [scan_comment dialect rest oneLine, lineEnd, Scan.after_after]

/-- A dollar tag is a name between dollar signs, which does not start with a digit and may be
missing. -/
def IsDollarTag (tag : List Char) : Prop :=
  ∃ name, tag = '$' :: (name ++ ['$']) ∧ (∀ character ∈ name, isTagCharacter character = true)
    ∧ name.head?.any Char.isDigit = false

/-- A dollar tag is found at the start of a text, whatever follows it. -/
theorem dollarTag?_append {tag : List Char} (isTag : IsDollarTag tag) (rest : List Char) :
    dollarTag? (tag ++ rest) = some tag := by
  obtain ⟨name, rfl, characters, noDigit⟩ := isTag
  have taken : (name ++ '$' :: rest).takeWhile isTagCharacter = name := by
    rw [List.takeWhile_append_of_pos characters, List.takeWhile_cons_of_neg (by decide),
      List.append_nil]
  simp [dollarTag?, taken, noDigit]

/-- No dollar tag has a line feed in it. -/
theorem IsDollarTag.oneLine {tag : List Char} (isTag : IsDollarTag tag) : '\n' ∉ tag := by
  obtain ⟨name, rfl, characters, _⟩ := isTag
  have inName : '\n' ∉ name := fun member => absurd (characters _ member) (by decide)
  simp [inName]

/-- What starts a text and has no line feed starts its first line. -/
theorem prefix_of_prefix_line {part text rest : List Char} (oneLine : '\n' ∉ part)
    (starts : part <+: text ++ '\n' :: rest) : part <+: text := by
  induction text generalizing part with
  | nil =>
      cases part with
      | nil => exact List.nil_prefix
      | cons first part =>
          rw [List.nil_append, List.cons_prefix_cons] at starts
          simp [starts.1] at oneLine
  | cons character text inductionHypothesis =>
      cases part with
      | nil => exact List.nil_prefix
      | cons first part =>
          rw [List.mem_cons, not_or] at oneLine
          rw [List.cons_append, List.cons_prefix_cons] at starts
          rw [List.cons_prefix_cons]
          exact ⟨starts.1, inductionHypothesis oneLine.2 starts.2⟩

/-- Inside a body, everything is read up to the tag on a line of its own, if the tag does not occur
before. -/
theorem scan_body_lines {tag text : List Char} (rest : List Char) (isTag : IsDollarTag tag)
    (absent : ¬tag <:+: text) :
    scan dialect (.body tag) (text ++ '\n' :: (tag ++ rest)) =
      (scan dialect .plain rest).after (lettersAs .body (text ++ '\n' :: tag)) := by
  induction text with
  | nil =>
      have oneLine := isTag.oneLine
      obtain ⟨name, rfl, _, _⟩ := isTag
      rw [List.nil_append, scan, List.cons_append, scan]
      simp
  | cons character text inductionHypothesis =>
      have notHere : tag.isPrefixOf (character :: (text ++ '\n' :: (tag ++ rest))) = false := by
        rw [Bool.eq_false_iff, ne_eq, List.isPrefixOf_iff_prefix, ← List.cons_append]
        intro starts
        exact absent (prefix_of_prefix_line isTag.oneLine starts).isInfix
      have notBehind : ¬tag <:+: text := fun occurs => absent (List.infix_cons occurs)
      rw [List.cons_append, scan]
      simp [notHere, inductionHypothesis notBehind]

/-- A body between dollar tags that do not occur in it is read as a whole. -/
theorem scan_body {tag text : List Char} (rest : List Char) (isTag : IsDollarTag tag)
    (absent : ¬tag <:+: text) :
    scan .postgresql .plain (tag ++ '\n' :: (text ++ '\n' :: (tag ++ rest))) =
      (scan .postgresql .plain rest).after
        (lettersAs .body (tag ++ '\n' :: (text ++ '\n' :: tag))) := by
  have found := dollarTag?_append isTag ('\n' :: (text ++ '\n' :: (tag ++ rest)))
  have inside : scan .postgresql (.body tag) ('\n' :: (text ++ '\n' :: (tag ++ rest))) =
      (scan .postgresql .plain rest).after (lettersAs .body ('\n' :: (text ++ '\n' :: tag))) := by
    have notInLine : ¬tag <:+: '\n' :: text := by
      rw [List.infix_cons_iff, not_or]
      refine ⟨fun starts => ?_, absent⟩
      obtain ⟨name, rfl, _, _⟩ := isTag
      simp at starts
    exact scan_body_lines .postgresql rest isTag notInLine
  obtain ⟨name, rfl, _, _⟩ := isTag
  simp only [List.cons_append, List.append_assoc, List.nil_append] at found inside ⊢
  rw [scan]
  simp [opensComment, Dialect.quoteMark, openingTag?, found, inside]

end Reading

end DbSchema.Sql
