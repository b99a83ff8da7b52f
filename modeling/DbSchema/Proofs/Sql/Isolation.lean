import DbSchema.Proofs.Sql.Statements

/-!
# Scripts are cut into their statements

`Cuts` says of a row of pieces what the lexer makes of it, whatever follows: it is back in plain
text behind the row, and the row is cut into given texts. Rows with that property are put together
by `cuts_append`, so that it goes from comment lines and statements through entries and sections up
to the script of a schema.
-/

namespace DbSchema.Sql

/-- Whether a row of pieces is cut into the given texts, whatever follows it. -/
def Cuts (dialect : Dialect) (pieces : List Piece) (texts : List (List Char)) : Prop :=
  ∃ letters,
    (∀ rest, scan dialect .plain (Piece.textOf dialect.quoteMark pieces ++ rest) =
      (scan dialect .plain rest).after letters)
      ∧ ∀ behind, segments (letters ++ behind) = texts ++ segments behind

/-- What is left of a statement when it is cut out. -/
def Statement.bare (dialect : Dialect) (statement : Statement) : List Char :=
  Piece.textOf dialect.quoteMark statement.core

section Cutting

/-- Comments and blanks in front of a text are no part of its segments. -/
theorem segments_gap {gap : List Letter} (behind : List Letter)
    (empty : ∀ letter ∈ gap, letter.role = .comment ∨
      letter.role = .plain ∧ Text.isBlank letter.character = true) :
    segments (gap ++ behind) = segments behind := by
  induction gap with
  | nil => rfl
  | cons letter gap inductionHypothesis =>
      rw [← inductionHypothesis fun other member => empty other (by simp [member])]
      have emptyLetter := empty letter (by simp)
      have continues : letter.isSemicolon = false := by
        rcases emptyLetter with comment | ⟨-, blank⟩
        · simp [Letter.isSemicolon, comment]
        · have other : letter.character ≠ ';' := by
            intro same
            rw [same] at blank
            exact absurd blank (by decide)
          simp [Letter.isSemicolon, other]
      have dropped (letters : List Letter) : bareText (letter :: letters) = bareText letters := by
        rcases emptyLetter with comment | ⟨plain, blank⟩
        · simp [bareText, comment]
        · simp [bareText, plain, Text.trimStart, blank]
      unfold segments
      rw [List.cons_append, List.splitOnP_cons_eq_if_modifyHead]
      cases stretches : (gap ++ behind).splitOnP Letter.isSemicolon with
      | nil => exact absurd stretches (List.splitOnP_ne_nil _ _)
      | cons first others => simp [continues, dropped]

/-- The letters up to a semicolon are a segment. -/
theorem segments_semicolon {letters : List Letter} (behind : List Letter)
    (continues : ∀ letter ∈ letters, letter.isSemicolon = false) :
    segments (letters ++ ⟨';', .plain⟩ :: behind) = bareText letters :: segments behind := by
  unfold segments
  rw [List.splitOnP_append_cons_of_forall_mem continues _ (by decide), List.map_cons]

end Cutting

section Rows

variable {dialect : Dialect}

theorem cuts_nil : Cuts dialect [] [] :=
  ⟨[], by simp, by simp⟩

theorem cuts_append {left right : List Piece} {textsLeft textsRight : List (List Char)}
    (cutsLeft : Cuts dialect left textsLeft) (cutsRight : Cuts dialect right textsRight) :
    Cuts dialect (left ++ right) (textsLeft ++ textsRight) := by
  obtain ⟨lettersLeft, readLeft, cutLeft⟩ := cutsLeft
  obtain ⟨lettersRight, readRight, cutRight⟩ := cutsRight
  refine ⟨lettersLeft ++ lettersRight, fun rest => ?_, fun behind => ?_⟩
  · rw [textOf_append, List.append_assoc, readLeft, readRight, Scan.after_after]
  · rw [List.append_assoc, cutLeft, cutRight, List.append_assoc]

/-- Blanks between statements are cut away. -/
theorem cuts_blank {text : String} (calm : isCalm text.toList = true)
    (blank : Text.isBlankText text = true) : Cuts dialect [.plain text] [] := by
  refine ⟨lettersAs .plain text.toList, fun rest => ?_, fun behind => ?_⟩
  · simpa [Piece.text] using scan_calm dialect rest calm
  · refine segments_gap behind fun letter member => .inr ?_
    obtain ⟨character, inText, rfl⟩ := List.mem_map.1 member
    exact ⟨rfl, List.all_eq_true.1 blank character inText⟩

/-- A comment is cut away with its line end. -/
theorem cuts_comment {line : String} (oneLine : '\n' ∉ line.toList) :
    Cuts dialect [.comment line, .plain "\n"] [] := by
  refine ⟨lettersAs .comment ('-' :: '-' :: line.toList) ++ lettersAs .plain ['\n'],
    fun rest => ?_, fun behind => ?_⟩
  · simpa [Piece.text] using scan_commentLine dialect rest oneLine
  · refine segments_gap behind fun letter member => ?_
    rcases List.mem_append.1 member with member | member
    · obtain ⟨character, -, rfl⟩ := List.mem_map.1 member
      exact .inl rfl
    · obtain rfl := List.mem_singleton.1 member
      exact .inr ⟨rfl, by decide⟩

/-- Comment lines are cut away. -/
theorem cuts_commentPieces {lines : List String} (oneLine : ∀ line ∈ lines, '\n' ∉ line.toList) :
    Cuts dialect (commentPieces lines) [] := by
  induction lines with
  | nil => exact cuts_nil
  | cons line lines inductionHypothesis =>
      exact cuts_append (cuts_comment (oneLine line (by simp)))
        (inductionHypothesis fun other member => oneLine other (by simp [member]))

/-- A cuttable statement is cut into what it says. -/
theorem cuts_statement {statement : Statement} (cuttable : statement.IsCuttable dialect) :
    Cuts dialect statement.pieces [statement.bare dialect] := by
  have core : Cuts dialect (statement.core ++ [.plain ";"]) [statement.bare dialect] := by
    refine ⟨lettersOf dialect.quoteMark statement.core ++ [⟨';', .plain⟩], fun rest => ?_,
      fun behind => ?_⟩
    · have ends : (';' :: rest).head? ≠ some dialect.quoteMark
          ∧ (';' :: rest).head? ≠ some '\'' := by
        cases dialect <;> simp [Dialect.quoteMark]
      have read := scan_textOf cuttable.legible ends
      rw [scan_semicolon, Scan.after_after] at read
      simpa [Piece.text] using read
    · have said (letter : Letter) (member : letter ∈ lettersOf dialect.quoteMark statement.core) :
          letter.role ≠ .comment ∧ letter.isSemicolon = false :=
        legible_letters cuttable.legible member
      have uncommented : (lettersOf dialect.quoteMark statement.core).filter
          (fun letter => letter.role != .comment) = lettersOf dialect.quoteMark statement.core :=
        List.filter_eq_self.2 fun letter member => by simpa using (said letter member).1
      have bare : bareText (lettersOf dialect.quoteMark statement.core) =
          statement.bare dialect := by
        unfold bareText
        dsimp only
        rw [uncommented, map_character_lettersOf]
        exact cuttable.tight.trim
      rw [List.append_assoc, List.singleton_append,
        segments_semicolon behind fun letter member => (said letter member).2, bare]
      rfl
  unfold Statement.pieces
  rw [List.append_assoc]
  exact cuts_append (cuts_commentPieces cuttable.comment) core

/-- Groups with blanks between each two are cut one by one. -/
theorem cuts_separated {α : Type} {separator : String} {pieces : α → List Piece}
    {texts : α → List (List Char)} {groups : List α}
    (blank : Cuts dialect [.plain separator] [])
    (cuts : ∀ group ∈ groups, Cuts dialect (pieces group) (texts group)) :
    Cuts dialect (Piece.separated separator (groups.map pieces)) (groups.flatMap texts) := by
  induction groups with
  | nil => exact cuts_nil
  | cons group groups inductionHypothesis =>
      have behind := inductionHypothesis fun other member => cuts other (by simp [member])
      cases groups with
      | nil => simpa [Piece.separated] using cuts group (by simp)
      | cons next groups =>
          exact cuts_append (cuts group (by simp)) (cuts_append blank behind)

end Rows

section Scripts

variable {dialect : Dialect}

/-- A section is cut into its statements. -/
theorem cuts_section {part : Section} (oneLine : '\n' ∉ part.title.toList)
    (cuttable : ∀ statement ∈ part.entries.flatten, statement.IsCuttable dialect) :
    Cuts dialect part.pieces (part.entries.flatten.map (Statement.bare dialect)) := by
  have newline : Cuts dialect [.plain "\n"] [] := cuts_blank (by decide) (by decide)
  have emptyLine : Cuts dialect [.plain "\n\n"] [] := cuts_blank (by decide) (by decide)
  have gap : Cuts dialect [.plain (if part.spaced then "\n\n" else "\n")] [] := by
    split
    · exact emptyLine
    · exact newline
  have title : Cuts dialect [.comment (" " ++ part.title), .plain "\n"] [] :=
    cuts_comment (by simpa using oneLine)
  have entry (statements : List Statement) (member : statements ∈ part.entries) :
      Cuts dialect (entryPieces statements) (statements.map (Statement.bare dialect)) := by
    rw [List.map_eq_flatMap]
    exact cuts_separated newline fun statement inEntry =>
      cuts_statement (cuttable statement (List.mem_flatten.2 ⟨statements, member, inEntry⟩))
  have entries : Cuts dialect (Piece.separated (if part.spaced then "\n\n" else "\n")
      (part.entries.map entryPieces)) (part.entries.flatten.map (Statement.bare dialect)) := by
    rw [List.map_flatten, ← List.flatMap_def]
    exact cuts_separated gap entry
  unfold Section.pieces
  split
  case isTrue empty => simpa [List.isEmpty_iff.1 empty] using cuts_nil
  case isFalse =>
    have whole := cuts_append (cuts_append newline title) (cuts_append entries newline)
    simpa using whole

end Scripts

section Headers

/-- A year is written in digits and a sign. -/
theorem mem_yearText {year : Int} {character : Char}
    (member : character ∈ Timestamp.yearText year) :
    character.isDigit = true ∨ character ∈ ['-', '+'] := by
  have padded (inDigits : character ∈ List.replicate (4 - (naturalText year.natAbs).length) '0'
      ++ naturalText year.natAbs) : character.isDigit = true := by
    rcases List.mem_append.1 inDigits with zero | digit
    · exact (List.mem_replicate.1 zero).2 ▸ by decide
    · exact isDigit_of_mem_naturalText digit
  unfold Timestamp.yearText at member
  dsimp only at member
  split at member
  · exact .inl (padded member)
  · rcases List.mem_cons.1 member with sign | member
    · right
      rw [sign]
      split <;> simp
    · exact .inl (padded member)

/-- The text of a point of time is made of digits and the marks between them. -/
theorem mem_textToSecond {time : Timestamp} {character : Char}
    (member : character ∈ time.textToSecond.toList) :
    character.isDigit = true ∨ character ∈ ['-', '+', 'T', ':', 'Z'] := by
  have digits {number : Nat} (inDigits : character ∈ Timestamp.fixedDigits 2 number) :
      character.isDigit = true :=
    Timestamp.isDigit_of_mem_fixedDigits inDigits
  simp only [Timestamp.textToSecond, Timestamp.secondText, String.toList_ofList,
    List.mem_append, List.mem_singleton] at member
  rcases member with ((((((((((year | rfl) | month) | rfl) | day) | rfl) | hour) | rfl) | minute)
    | rfl) | second) | rfl
  · exact (mem_yearText year).imp_right fun sign => by simp at sign ⊢; tauto
  all_goals first | exact .inl (digits ‹_›) | exact .inr (by decide)

/-- The text of a point of time is a line. -/
theorem oneLine_textToSecond (time : Timestamp) : '\n' ∉ time.textToSecond.toList := by
  intro member
  exact absurd (mem_textToSecond member) (by decide)

/-- A text that is brought on one line is one. -/
theorem oneLine_onOneLine (text : String) : '\n' ∉ (Text.onOneLine text).toList := by
  have lines (line : List Char) (member : line ∈ (Text.lines text).map String.toList) :
      '\n' ∉ line := by
    obtain ⟨line, inText, rfl⟩ := List.mem_map.1 member
    exact oneLine_of_mem_lines inText
  rw [Text.onOneLine, String.toList_intercalate]
  generalize (Text.lines text).map String.toList = rows at lines
  induction rows with
  | nil => simp
  | cons row rows inductionHypothesis =>
      have here := lines row (by simp)
      have behind := inductionHypothesis fun other member => lines other (by simp [member])
      cases rows with
      | nil => simpa using here
      | cons next rows =>
          have space : '\n' ∉ " ".toList := by decide
          simp only [List.intercalate_cons_cons, List.mem_append, not_or]
          exact ⟨⟨here, space⟩, behind⟩

/-- The comment lines at the top of a script are lines. -/
theorem oneLine_of_mem_headerLines {schema : Schema} {dialect : Dialect} {time : Option Timestamp}
    {line : String} (member : line ∈ headerLines schema dialect time) : '\n' ∉ line.toList := by
  simp only [headerLines, List.mem_append, List.mem_cons, List.not_mem_nil, or_false,
    List.mem_map] at member
  rcases member with ((rfl | rfl) | ⟨time, -, rfl⟩) | member
  · simp [oneLine_onOneLine]
  · cases dialect <;> decide
  · simp [oneLine_textToSecond]
  · exact oneLine_of_mem_commentLines member

end Headers

/-- The statements of a schema are those of its sections. -/
theorem statementsOf_eq (dialect : Dialect) (schema : Schema) :
    statementsOf dialect schema = (sectionsOf dialect schema).flatMap fun part =>
      part.entries.flatten := by
  have single (statements : List Statement) :
      (statements.map fun statement => [statement]).flatten = statements := by
    rw [← List.flatMap_def, List.flatMap_singleton']
  simp [statementsOf, sectionsOf, single, -List.map_map]

/-- The script of an inert schema is cut into the statements of the schema. -/
theorem cuts_script (options : Options) (time : Timestamp) {schema : Schema}
    (inert : schema.IsInert)
    (functions : options.dialectFor schema = .mysql → schema.routines = []) :
    Cuts (options.dialectFor schema) (scriptOf options time schema).pieces
      ((statementsOf (options.dialectFor schema) schema).map
        (Statement.bare (options.dialectFor schema))) := by
  have header : Cuts (options.dialectFor schema)
      (commentPieces (scriptOf options time schema).header) [] :=
    cuts_commentPieces fun line member => oneLine_of_mem_headerLines member
  have cuttable (part : Section) (member : part ∈ sectionsOf (options.dialectFor schema) schema)
      (statement : Statement) (inPart : statement ∈ part.entries.flatten) :
      statement.IsCuttable (options.dialectFor schema) := by
    refine isCuttable_of_mem_statementsOf inert functions ?_
    rw [statementsOf_eq]
    exact List.mem_flatMap.2 ⟨part, member, inPart⟩
  have titles (part : Section) (member : part ∈ sectionsOf (options.dialectFor schema) schema) :
      '\n' ∉ part.title.toList := by
    have all : ∀ title ∈ ["Schemas", "Enum types", "Tables", "Indexes", "Foreign keys",
        "Junction tables", "Stored procedures"], '\n' ∉ title.toList := by decide
    exact all part.title (List.mem_map_of_mem member)
  have sections (parts : List Section)
      (among : ∀ part ∈ parts, part ∈ sectionsOf (options.dialectFor schema) schema) :
      Cuts (options.dialectFor schema) (parts.flatMap Section.pieces)
        (parts.flatMap fun part =>
          part.entries.flatten.map (Statement.bare (options.dialectFor schema))) := by
    induction parts with
    | nil => exact cuts_nil
    | cons part parts inductionHypothesis =>
        have here := among part (by simp)
        exact cuts_append (cuts_section (titles part here) (cuttable part here))
          (inductionHypothesis fun other member => among other (by simp [member]))
  have whole := cuts_append header (sections _ fun _ member => member)
  rwa [List.nil_append, ← List.map_flatMap, ← statementsOf_eq] at whole

/-- The SQL text of an inert schema is cut into exactly the statements of the schema, in order: the
lexer ends in plain text, and nothing but blanks and comments stands around the statements and
behind the last of them. -/
theorem compile_isolates_statements (options : Options) (time : Timestamp) (schema : Schema)
    (inert : schema.IsInert)
    (functions : options.dialectFor schema = .mysql → schema.routines = []) :
    let dialect := options.dialectFor schema
    let read := scan dialect .plain (compile options time schema).toList
    read.ending = .plain
      ∧ segments read.letters =
        (statementsOf dialect schema).map (Statement.bare dialect) ++ [[]] := by
  obtain ⟨letters, read, cut⟩ := cuts_script options time inert functions
  have whole : scan (options.dialectFor schema) .plain (compile options time schema).toList =
      ⟨letters, .plain⟩ := by
    have readAll := read []
    rw [List.append_nil, scan] at readAll
    simpa [compile, Script.text, textIn, scriptOf, Scan.after] using readAll
  have cutAll := cut []
  rw [List.append_nil] at cutAll
  dsimp only
  rw [whole]
  exact ⟨rfl, cutAll⟩

/-- A schema whose texts all try to leave their place. -/
def hostileSchema : Schema where
  id := "schema"
  name := "shop\n; DROP TABLE users; --"
  description := "one\n\n'; DROP SCHEMA x; --\r\n\"two"
  dialect := .postgresql
  tables :=
    [{ id := "table"
       name := "a\"; DROP TABLE b; --"
       declaredNamespace := some " q\";\n "
       columns :=
        [⟨"first", "x\"y", .integer, none, none, none, true, false, false, some .null, [], none⟩,
          ⟨"second", "state", .enum, none, none, none, false, true, true,
            some (.text "it's; --\n$$"), ["new'", ";", "--"], some "');\n--"⟩]
       indexes := [⟨"index", "i\";", ["x\"y", "--"], true, some .gin⟩]
       foreignKeys := [⟨"key", "k", "state", "missing;", "$$", .setNull, some .cascade⟩]
       comment := some "$body$; ''"}]
  relationships :=
    [⟨"relationship", "r", "a\"; DROP TABLE b; --", "x", "t", "y", .manyToMany, .cascade,
      some ⟨"j;\n", "'", "\""⟩⟩]
  routines :=
    [⟨"routine", "f\"()", [⟨"p;", .text, .inout, some (.text "';")⟩], some .table,
      "SELECT '$$'; -- $body$\n", some "sql", some "; DROP\n--"⟩]
  createdAt := default
  updatedAt := default

/-- Such a schema is still cut into its nine statements. -/
theorem compile_isolates_hostileSchema :
    hostileSchema.IsInert ∧ (statementsOf .postgresql hostileSchema).length = 9
      ∧ (scan .postgresql .plain
          (compile Options.standard default hostileSchema).toList).ending = .plain
      ∧ segments (scan .postgresql .plain
          (compile Options.standard default hostileSchema).toList).letters =
        (statementsOf .postgresql hostileSchema).map (Statement.bare .postgresql) ++ [[]] := by
  have inert : hostileSchema.IsInert := by
    refine ⟨?_, ?_, ?_⟩
    · simp [hostileSchema]
      decide
    · simp [hostileSchema]
      decide
    · simp [hostileSchema]
      decide
  refine ⟨inert, by decide, ?_⟩
  exact compile_isolates_statements Options.standard default hostileSchema inert (by decide)

end DbSchema.Sql
