import DbSchema.Proofs.Sql.Tameness

/-!
# Definitions are read as what they are

The definition of a column is read as the name and the constraints of its clause, and a primary key
as its names. The words of a clause are the words of its parts, since each part but the first starts
with a blank.
-/

namespace DbSchema.Sql

section Clauses

variable {quote : Char} {dialect : Dialect}

/-- Whether pieces have the words, and stand behind any other pieces without joining a word. -/
def HasWords (quote : Char) (pieces : List Piece) (words : List String) : Prop :=
  wordsOf (lettersOf quote pieces) = words
    ∧ (lettersOf quote pieces).head?.any Letter.isOfWord = false

/-- The words of pieces in a row. -/
theorem HasWords.append {left right : List Piece} {wordsLeft wordsRight : List String}
    (isLeft : HasWords quote left wordsLeft) (isRight : HasWords quote right wordsRight) :
    HasWords quote (left ++ right) (wordsLeft ++ wordsRight) := by
  refine ⟨?_, ?_⟩
  · rw [lettersOf_append, wordsOf_append isRight.2, isLeft.1, isRight.1]
  · rw [lettersOf_append]
    cases letters : lettersOf quote left with
    | nil => exact isRight.2
    | cons first others => simpa [letters] using isLeft.2

/-- The words that a column clause has for a constraint that may be missing. -/
theorem hasWords_constraint (given : Bool) {text : String} {words : List String}
    (read : wordsOf (lettersAs .plain text.toList) = words)
    (apart : (lettersAs .plain text.toList).head?.any Letter.isOfWord = false) :
    HasWords quote (if given then [.plain text] else []) (if given then words else []) := by
  cases given
  · exact ⟨rfl, rfl⟩
  · simpa [HasWords, Piece.role, Piece.text] using ⟨read, apart⟩

/-- The words of a default. -/
theorem hasWords_default (value : Option Piece) :
    HasWords quote (optionalPieces (fun value => [.plain " DEFAULT ", value]) value)
      (value.elim [] fun value => "DEFAULT" :: wordsOf (lettersOf quote [value])) := by
  cases value with
  | none => exact ⟨rfl, rfl⟩
  | some value =>
      have letters : lettersOf quote [.plain " DEFAULT ", value] =
          lettersAs .plain " DEFAULT".toList ++ ⟨' ', .plain⟩ :: lettersOf quote [value] := rfl
      have read : wordsOf (lettersAs .plain " DEFAULT".toList) = ["DEFAULT"] := by decide
      refine ⟨?_, rfl⟩
      rw [optionalPieces, letters, wordsOf_append (by rfl), read, wordsOf_cons (by rfl)]
      rfl

/-- The words of a comment. -/
theorem hasWords_comment (comment : Option String) :
    HasWords quote (optionalPieces (fun comment => .plain " " :: commentClause comment) comment)
      (comment.elim [] fun _ => ["COMMENT"]) := by
  cases comment with
  | none => exact ⟨rfl, rfl⟩
  | some text =>
      have letters : lettersOf quote (.plain " " :: commentClause text) =
          lettersAs .plain " COMMENT ".toList
            ++ lettersAs .quoted (Text.quoteWith '\'' text).toList := by
        simp [commentClause, Piece.role, Piece.text, Text.quoteLiteral]
      have read : wordsOf (lettersAs .plain " COMMENT ".toList) = ["COMMENT"] := by decide
      refine ⟨?_, rfl⟩
      rw [optionalPieces, letters, wordsOf_append, read, wordsOf_quoted]
      · rfl
      · simp [Letter.isOfWord]

/-- The words of a column clause outside of quotes. -/
theorem wordsOf_columnClause (clause : ColumnClause) :
    wordsOf (lettersOf quote clause.pieces) =
      wordsOf (lettersOf quote clause.type.pieces)
        ++ (if clause.notNull then ["NOT", "NULL"] else [])
        ++ (if clause.unique then ["UNIQUE"] else [])
        ++ (clause.default.elim [] fun value => "DEFAULT" :: wordsOf (lettersOf quote [value]))
        ++ (clause.comment.elim [] fun _ => ["COMMENT"]) := by
  have named : HasWords quote ([.name clause.name, .plain " "] ++ clause.type.pieces)
      (wordsOf (lettersOf quote clause.type.pieces)) := by
    have letters : lettersOf quote ([.name clause.name, .plain " "] ++ clause.type.pieces) =
        lettersAs .quoted (Text.quoteWith quote clause.name).toList
          ++ ⟨' ', .plain⟩ :: lettersOf quote clause.type.pieces := rfl
    rw [HasWords, letters]
    refine ⟨?_, by simp [Letter.isOfWord]⟩
    rw [wordsOf_append (by rfl), wordsOf_quoted, List.nil_append, wordsOf_cons (by rfl)]
  have notNull : HasWords quote (if clause.notNull then [.plain " NOT NULL"] else [])
      (if clause.notNull then ["NOT", "NULL"] else []) :=
    hasWords_constraint _ (by decide) (by decide)
  have unique : HasWords quote (if clause.unique then [.plain " UNIQUE"] else [])
      (if clause.unique then ["UNIQUE"] else []) :=
    hasWords_constraint _ (by decide) (by decide)
  exact ((((named.append notNull).append unique).append (hasWords_default clause.default)).append
    (hasWords_comment clause.comment)).1

/-- Which clause words a column clause has, if its type and its default are tame. -/
theorem clauseWords_of_columnClause {clause : ColumnClause}
    (type : IsTame (lettersOf quote clause.type.pieces))
    (value : ∀ piece, clause.default = some piece → IsTame (lettersOf quote [piece])) :
    let words := wordsOf (lettersOf quote clause.pieces)
    (["NOT", "NULL"] <:+: words ↔ clause.notNull = true)
      ∧ ("UNIQUE" ∈ words ↔ clause.unique = true)
      ∧ ("DEFAULT" ∈ words ↔ clause.default.isSome = true) := by
  intro words
  have split : words = _ := wordsOf_columnClause clause
  have member (word : String) (isClauseWord : word ∈ clauseWords) :
      word ∈ words ↔ (clause.notNull = true ∧ word = "NOT")
        ∨ (clause.unique = true ∧ word = "UNIQUE")
        ∨ (clause.default.isSome = true ∧ word = "DEFAULT") := by
    have others : ∀ word ∈ clauseWords, word ≠ "NULL" ∧ word ≠ "COMMENT" := by decide
    have other := others word isClauseWord
    have noType := type.wordless word isClauseWord
    rw [split]
    cases given : clause.default with
    | none => cases clause.comment <;> simp [noType, other]
    | some piece =>
        have noValue := (value piece given).wordless word isClauseWord
        rw [Option.elim_some]
        generalize wordsOf (lettersOf quote [piece]) = valueWords at noValue
        cases clause.comment <;> simp [noType, noValue, other]
  refine ⟨⟨fun row => ?_, fun given => ?_⟩, ?_, ?_⟩
  · simpa using (member "NOT" (by decide)).1 (row.subset (.head _))
  · rw [split, given]
    exact ⟨wordsOf (lettersOf quote clause.type.pieces), _, by simp only [List.append_assoc]; rfl⟩
  · simpa using member "UNIQUE" (by decide)
  · simpa using member "DEFAULT" (by decide)

/-- A column clause keeps the depth, if its type and its default are tame. -/
theorem keepsDepth_columnClause {clause : ColumnClause}
    (type : IsTame (lettersOf quote clause.type.pieces))
    (value : ∀ piece, clause.default = some piece → IsTame (lettersOf quote [piece])) :
    KeepsDepth 0 (lettersOf quote clause.pieces) := by
  have word (given : Bool) {text : String} (keeps : KeepsDepth 0 (lettersAs .plain text.toList)) :
      KeepsDepth 0 (lettersOf quote (if given then [.plain text] else [])) := by
    cases given
    · rfl
    · simpa [Piece.role, Piece.text] using keeps
  have named : KeepsDepth 0 (lettersOf quote [.name clause.name, .plain " "]) :=
    keepsDepth_quoted.append rfl
  have default : KeepsDepth 0 (lettersOf quote
      (optionalPieces (fun value => [.plain " DEFAULT ", value]) clause.default)) := by
    cases given : clause.default with
    | none => rfl
    | some piece =>
        have gap : KeepsDepth 0 (lettersAs .plain " DEFAULT ".toList) := by decide
        exact gap.append (value piece given).keeps
  have comment : KeepsDepth 0 (lettersOf quote
      (optionalPieces (fun comment => .plain " " :: commentClause comment) clause.comment)) := by
    cases clause.comment with
    | none => rfl
    | some text =>
        have gap : KeepsDepth 0 (lettersAs .plain " COMMENT ".toList) := by decide
        exact gap.append (keepsDepth_quoted.append rfl)
  unfold ColumnClause.pieces
  simp only [lettersOf_append]
  exact ((((named.append type.keeps).append (word clause.notNull (by decide))).append
    (word clause.unique (by decide))).append default).append comment

/-- The definition of a column keeps the depth on its line. -/
theorem keepsDepth_column {clause : ColumnClause}
    (type : IsTame (lettersOf quote clause.type.pieces))
    (value : ∀ piece, clause.default = some piece → IsTame (lettersOf quote [piece])) :
    KeepsDepth 0 (lettersOf quote (TableElement.column clause).pieces) := by
  have indent : KeepsDepth 0 (lettersAs .plain "    ".toList) := by decide
  exact indent.append (keepsDepth_columnClause type value)

/-- The definition of a column is not blank. -/
theorem filled_column (clause : ColumnClause) :
    ∃ letter ∈ lettersOf quote (TableElement.column clause).pieces, letter.isBlank = false := by
  refine ⟨⟨quote, .quoted⟩, ?_, by simp [Letter.isBlank]⟩
  simp [TableElement.pieces, ColumnClause.pieces, Piece.role, Piece.text]

/-- A primary key is not blank. -/
theorem filled_primaryKey (columns : List String) :
    ∃ letter ∈ lettersOf quote (TableElement.primaryKey columns).pieces,
      letter.isBlank = false := by
  refine ⟨⟨'P', .plain⟩, ?_, by decide⟩
  simp [TableElement.pieces, Piece.role, Piece.text]

end Clauses

section Reading

variable {dialect : Dialect}

/-- Whether every item that is an element with blanks around it is read as the given definition. -/
def ReadsAs (dialect : Dialect) (element : TableElement) (definition : Definition) : Prop :=
  ∀ item, Pads (lettersOf dialect.quoteMark element.pieces) item →
    readDefinition dialect item = some definition

/-- A quoted name is read at the start of letters, if no quote mark follows it. -/
theorem readName_quoted (text : String) {rest : List Letter}
    (ends : (rest.map Letter.character).head? ≠ some dialect.quoteMark) :
    readName dialect
        (lettersAs .quoted (Text.quoteWith dialect.quoteMark text).toList ++ rest) =
      some (text, rest.map Letter.character) := by
  rw [readName, List.map_append, map_character_lettersAs, Text.readQuoted_quoteWith text ends,
    Option.map_some, String.ofList_toList]

/-- No letter of a table name opens a parenthesis. -/
theorem closed_tableName (quote : Char) (name : TableName) :
    ∀ letter ∈ lettersOf quote name.pieces, letter.isPlain '(' = false := by
  have point : ∀ letter ∈ lettersAs .plain ".".toList, letter.isPlain '(' = false := by decide
  unfold TableName.pieces
  split <;> simp only [lettersOf_cons, lettersOf_nil, List.forall_mem_append]
  · exact ⟨fun _ => isPlain_of_mem_quoted, point, fun _ => isPlain_of_mem_quoted, by simp⟩
  · exact ⟨fun _ => isPlain_of_mem_quoted, by simp⟩

/-- A blank is no quote mark. -/
theorem ne_quoteMark_of_isBlank {letter : Letter} (blank : letter.isBlank = true) :
    letter.character ≠ dialect.quoteMark := by
  rw [Letter.isBlank, Bool.and_eq_true] at blank
  intro same
  rw [same] at blank
  cases dialect <;> exact absurd blank.1 (by decide)

/-- The definition of a column is read as what its clause says, if its type and its default are
tame. -/
theorem readsAs_column {clause : ColumnClause}
    (type : IsTame (lettersOf dialect.quoteMark clause.type.pieces))
    (value : ∀ piece, clause.default = some piece → IsTame (lettersOf dialect.quoteMark [piece])) :
    ReadsAs dialect (.column clause)
      (.column clause.name clause.notNull clause.unique clause.default.isSome) := by
  intro item pads
  obtain ⟨behind, split⟩ : ∃ behind, lettersOf dialect.quoteMark clause.pieces =
      lettersAs .quoted (Text.quoteWith dialect.quoteMark clause.name).toList
        ++ ⟨' ', .plain⟩ :: behind := by
    obtain ⟨rest, pieces⟩ : ∃ rest, clause.pieces = .name clause.name :: .plain " " :: rest := by
      unfold ColumnClause.pieces
      simp only [List.append_assoc, List.cons_append]
      exact ⟨_, rfl⟩
    exact ⟨lettersOf dialect.quoteMark rest, by rw [pieces]; rfl⟩
  have indented : Pads (lettersAs .plain "    ".toList
      ++ lettersOf dialect.quoteMark clause.pieces) item := pads
  have unindented : Pads (lettersOf dialect.quoteMark clause.pieces) item :=
    indented.of_append (by decide)
  have solid : (lettersOf dialect.quoteMark clause.pieces).head?.any (!·.isBlank) = true := by
    rw [split, Text.toList_quoteWith]
    simp [Letter.isBlank]
  obtain ⟨back, dropped, blank⟩ := unindented.dropWhile solid
  have noMark : ' ' ≠ dialect.quoteMark := by cases dialect <;> decide
  have named : readName dialect (lettersOf dialect.quoteMark clause.pieces ++ back) =
      some (clause.name, ((⟨' ', .plain⟩ :: behind) ++ back).map Letter.character) := by
    rw [split, List.append_assoc]
    exact readName_quoted clause.name (by simpa using noMark)
  obtain ⟨notNull, unique, default⟩ := clauseWords_of_columnClause type value
  rw [readDefinition, dropped, named, wordsOf_append_blank blank]
  simp only [notNull, unique, default, Bool.decide_eq_true]

/-- An item that is a name with blanks around it is read as the name. -/
theorem readWholeName_of_pads {text : String} {item : List Letter}
    (pads : Pads (lettersOf dialect.quoteMark [.name text]) item) :
    readWholeName dialect item = some text := by
  have letters : lettersOf dialect.quoteMark [.name text] =
      lettersAs .quoted (Text.quoteWith dialect.quoteMark text).toList := by
    simp [Piece.role, Piece.text]
  obtain ⟨back, dropped, blank⟩ := pads.dropWhile (by simp [letters, Letter.isBlank])
  have ends : (back.map Letter.character).head? ≠ some dialect.quoteMark := by
    cases back with
    | nil => simp
    | cons first others => simpa using ne_quoteMark_of_isBlank (blank first (.head _))
  have blankText : (back.map Letter.character).all Text.isBlank = true := by
    refine List.all_eq_true.2 fun character member => ?_
    obtain ⟨letter, inBack, rfl⟩ := List.mem_map.1 member
    have isBlank := blank letter inBack
    rw [Letter.isBlank, Bool.and_eq_true] at isBlank
    exact isBlank.1
  rw [readWholeName, dropped, letters, readName_quoted text ends]
  simp [blankText]

/-- Names with commas between them are the items of parentheses, and what follows these is left. -/
theorem itemsOf_names (dialect : Dialect) {before : List Letter} (behind : List Letter)
    {texts : List String} (nonempty : texts ≠ [])
    (closed : ∀ letter ∈ before, letter.isPlain '(' = false) :
    ∃ items, itemsOf (before ++ ⟨'(', .plain⟩ ::
          (lettersOf dialect.quoteMark (Piece.names texts) ++ ⟨')', .plain⟩ :: behind)) =
        some (items, behind)
      ∧ items.mapM (readWholeName dialect) = some texts := by
  have keeps : ∀ group ∈ texts.map fun text => [Piece.name text],
      KeepsDepth 0 (lettersOf dialect.quoteMark group) := by
    intro group member
    obtain ⟨text, -, rfl⟩ := List.mem_map.1 member
    exact keepsDepth_quoted.append rfl
  have filled : ∀ group ∈ texts.map fun text => [Piece.name text],
      ∃ letter ∈ lettersOf dialect.quoteMark group, letter.isBlank = false := by
    intro group member
    obtain ⟨text, -, rfl⟩ := List.mem_map.1 member
    exact ⟨⟨dialect.quoteMark, .quoted⟩, by simp [Piece.role, Piece.text], by simp [Letter.isBlank]⟩
  have comma : ", ".toList = ',' :: [' '] := rfl
  obtain ⟨items, cut, pads⟩ := itemsFrom_separated [] [] behind comma (by decide)
    (by simpa using nonempty) keeps (by simp) (by simp)
  have whole := filledItems_of_pads pads filled
  refine ⟨items, ?_, mapM_of_pads pads (List.forall₂_map_left_iff.2
    (List.forall₂_same.2 fun text _ item => readWholeName_of_pads))⟩
  rw [List.nil_append] at cut
  rw [itemsOf_parenthesised closed, Piece.names, cut]
  simp [whole]

/-- Names with commas between them are read between parentheses. -/
theorem readNames_names (dialect : Dialect) {before back : List Letter} {texts : List String}
    (nonempty : texts ≠ []) (closed : ∀ letter ∈ before, letter.isPlain '(' = false)
    (blank : ∀ letter ∈ back, letter.isBlank = true) :
    readNames dialect (before ++ ⟨'(', .plain⟩ ::
        (lettersOf dialect.quoteMark (Piece.names texts) ++ ⟨')', .plain⟩ :: back)) =
      some texts := by
  obtain ⟨items, cut, read⟩ := itemsOf_names dialect back nonempty closed
  have blankBack : back.all Letter.isBlank = true := List.all_eq_true.2 blank
  rw [readNames, cut]
  simp [blankBack, read]

/-- A primary key as its letters: key words, and names between parentheses. -/
theorem lettersOf_primaryKey (quote : Char) (columns : List String) :
    lettersOf quote (TableElement.primaryKey columns).pieces =
      lettersAs .plain "    ".toList ++ (lettersAs .plain "PRIMARY KEY ".toList ++ ⟨'(', .plain⟩ ::
        (lettersOf quote (Piece.names columns) ++ [⟨')', .plain⟩])) := by
  simp [TableElement.pieces, Piece.role, Piece.text]

/-- Names with commas between them have neither words nor parentheses. -/
theorem names_apart {quote : Char} {texts : List String} {letter : Letter}
    (member : letter ∈ lettersOf quote (Piece.names texts)) :
    letter.isOfWord = false ∧ (letter.role = .plain → letter.character ∉ ['(', ')']) := by
  have gap : ∀ letter ∈ lettersAs .plain ", ".toList,
      letter.isOfWord = false ∧ (letter.role = .plain → letter.character ∉ ['(', ')']) := by decide
  rcases role_of_mem_separated (by simp [Piece.role]) member with quoted | between
  · simp [Letter.isOfWord, quoted]
  · exact gap letter between

/-- A primary key keeps the depth. -/
theorem keepsDepth_primaryKey (quote : Char) (columns : List String) :
    KeepsDepth 0 (lettersOf quote (TableElement.primaryKey columns).pieces) := by
  have indent : KeepsDepth 0 (lettersAs .plain "    ".toList) := by decide
  have keywords : KeepsDepth 0 (lettersAs .plain "PRIMARY KEY ".toList) := by decide
  have names : KeepsDepth 1 (lettersOf quote (Piece.names columns)) :=
    keepsDepth_inside fun letter member => (names_apart member).2
  rw [lettersOf_primaryKey]
  exact indent.append (keywords.append names.parenthesised)

/-- A primary key with columns is read as their names. -/
theorem readsAs_primaryKey {columns : List String} (nonempty : columns ≠ []) :
    ReadsAs dialect (.primaryKey columns) (.primaryKey columns) := by
  intro item pads
  rw [lettersOf_primaryKey] at pads
  obtain ⟨back, dropped, blank⟩ := (pads.of_append (by decide)).dropWhile rfl
  have split : item.dropWhile Letter.isBlank =
      lettersAs .plain "PRIMARY KEY ".toList ++ ⟨'(', .plain⟩ ::
        (lettersOf dialect.quoteMark (Piece.names columns) ++ ⟨')', .plain⟩ :: back) := by
    simpa using dropped
  have unnamed : readName dialect (item.dropWhile Letter.isBlank) = none := by
    rw [split]
    cases dialect <;> rfl
  have keywords : wordsOf (lettersAs .plain "PRIMARY KEY ".toList) = ["PRIMARY", "KEY"] := by decide
  have apart : ∀ letter ∈ (⟨'(', .plain⟩ :: (lettersOf dialect.quoteMark (Piece.names columns)
      ++ ⟨')', .plain⟩ :: back) : List Letter), letter.isOfWord = false := by
    simp only [List.forall_mem_cons, List.forall_mem_append]
    exact ⟨rfl, fun letter member => (names_apart member).1, rfl,
      fun letter member => not_isOfWord_of_isBlank (blank letter member)⟩
  have words : wordsOf (item.dropWhile Letter.isBlank) = ["PRIMARY", "KEY"] := by
    rw [split, wordsOf_append rfl, keywords, wordsOf_eq_nil apart, List.append_nil]
  have closed : ∀ letter ∈ lettersAs .plain "PRIMARY KEY ".toList, letter.isPlain '(' = false := by
    decide
  have names := readNames_names dialect nonempty closed blank
  rw [← split] at names
  rw [readDefinition, unnamed]
  simp [words, names]

end Reading

end DbSchema.Sql
