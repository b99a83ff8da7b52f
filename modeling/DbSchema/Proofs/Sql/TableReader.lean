import DbSchema.Proofs.Sql.Legibility
import DbSchema.Proofs.Text.Stretches
import Mathlib.Data.List.Forall2
import Mathlib.Data.List.Infix

/-!
# A reader of table definitions

How the definitions of a table are found in SQL text. The letters between the first pair of
parentheses are cut at the commas that are outside quotes and outside nested parentheses, and each
item is read by itself: the quoted name that it starts with, and the words that it has outside of
quotes. Nothing is known about how the text was made; the lexer alone says what is quoted.

The lemmas say that letters in which the depth of parentheses comes back to where it was are not
cut, and which words letters in a row have.
-/

namespace DbSchema.Sql

/-- Whether a letter is the given character in plain text. -/
def Letter.isPlain (character : Char) (letter : Letter) : Bool :=
  letter.character = character && letter.role = .plain

/-- Whether a letter is a blank of plain text. -/
def Letter.isBlank (letter : Letter) : Bool :=
  Text.isBlank letter.character && letter.role = .plain

/-- Whether a letter belongs to a word of plain text. -/
def Letter.isOfWord (letter : Letter) : Bool :=
  (letter.character.isAlphanum || letter.character = '_') && letter.role = .plain

/-- What a letter means for the item that it stands in: the item goes on behind it, with so many
parentheses open, or the letter cuts it off, or closes the last item. -/
inductive Turn where
  | within (depth : Nat)
  | cut
  | close
  deriving DecidableEq, Repr

/-- What a letter means at a depth of parentheses. -/
def turn (depth : Nat) (letter : Letter) : Turn :=
  if letter.isPlain '(' then .within (depth + 1)
  else if letter.isPlain ')' then if depth = 0 then .close else .within (depth - 1)
  else if letter.isPlain ',' && depth = 0 then .cut
  else .within depth

/-- Cuts letters at the commas of depth zero, up to the parenthesis that closes this depth, and
gives what follows it. What was read of the item that is not yet cut is `item`. Nothing if the
closing parenthesis is missing. -/
def itemsFrom (depth : Nat) (item : List Letter) :
    List Letter → Option (List (List Letter) × List Letter)
  | [] => none
  | letter :: rest =>
    match turn depth letter with
    | .within depth => itemsFrom depth (item ++ [letter]) rest
    | .cut => (itemsFrom 0 [] rest).map fun found => (item :: found.1, found.2)
    | .close => some ([item], rest)

/-- The items without the only one, if it is blank. -/
def filledItems : List (List Letter) → List (List Letter)
  | [item] => if item.all Letter.isBlank then [] else [item]
  | items => items

/-- The items between the first opening parenthesis and the one that closes it, and what follows. -/
def itemsOf (letters : List Letter) : Option (List (List Letter) × List Letter) :=
  match letters.dropWhile fun letter => !letter.isPlain '(' with
  | [] => none
  | _ :: rest => (itemsFrom 0 [] rest).map fun found => (filledItems found.1, found.2)

/-- The words of letters: the longest runs of letters, digits and underscores of plain text. -/
def wordsOf (letters : List Letter) : List String :=
  ((letters.splitOnP fun letter => !letter.isOfWord).filter fun run => !run.isEmpty).map
    fun run => .ofList (run.map Letter.character)

/-- A definition of a table, as far as it is read: a column with its name and whether it has a
constraint against absent values, one against repeated values, and a default; or the names of the
columns in the primary key. -/
inductive Definition where
  | column (name : String) (notNull unique hasDefault : Bool)
  | primaryKey (columns : List String)
  deriving DecidableEq, Repr

/-- Reads a quoted name at the start of letters, and gives what follows it. -/
def readName (dialect : Dialect) (letters : List Letter) : Option (String × List Char) :=
  (Text.readQuoted dialect.quoteMark (letters.map Letter.character)).map fun found =>
    (.ofList found.1, found.2)

/-- Reads an item that is a quoted name and nothing else but blanks. -/
def readWholeName (dialect : Dialect) (item : List Letter) : Option String :=
  match readName dialect (item.dropWhile Letter.isBlank) with
  | some (name, rest) => if rest.all Text.isBlank then some name else none
  | none => none

/-- Reads names between parentheses, with nothing but blanks behind them. -/
def readNames (dialect : Dialect) (letters : List Letter) : Option (List String) :=
  match itemsOf letters with
  | some (items, rest) =>
    if rest.all Letter.isBlank then items.mapM (readWholeName dialect) else none
  | none => none

/-- Reads the definition in an item. That of a column starts with a quoted name. -/
def readDefinition (dialect : Dialect) (item : List Letter) : Option Definition :=
  let letters := item.dropWhile Letter.isBlank
  let words := wordsOf letters
  match readName dialect letters with
  | some (name, _) =>
    some (.column name (decide (["NOT", "NULL"] <:+: words)) (decide ("UNIQUE" ∈ words))
      (decide ("DEFAULT" ∈ words)))
  | none =>
    if words = ["PRIMARY", "KEY"] then (readNames dialect letters).map .primaryKey else none

/-- Reads the definitions of the table that a text creates. -/
def readTable (dialect : Dialect) (text : List Char) : Option (List Definition) :=
  match itemsOf (scan dialect .plain text).letters with
  | some (items, _) => items.mapM (readDefinition dialect)
  | none => none

section Depth

variable {depth : Nat} {letters left right : List Letter}

/-- How many parentheses are open behind letters, if no letter cuts or closes an item. -/
def depthBehind (depth : Nat) : List Letter → Option Nat
  | [] => some depth
  | letter :: rest =>
    match turn depth letter with
    | .within depth => depthBehind depth rest
    | .cut | .close => none

/-- Whether as many parentheses are open behind letters as in front of them. -/
def KeepsDepth (depth : Nat) (letters : List Letter) : Prop :=
  depthBehind depth letters = some depth

instance (depth : Nat) (letters : List Letter) : Decidable (KeepsDepth depth letters) :=
  inferInstanceAs (Decidable (_ = _))

/-- The depth behind letters in a row. -/
theorem depthBehind_append {between : Nat} (behind : depthBehind depth left = some between) :
    depthBehind depth (left ++ right) = depthBehind between right := by
  induction left generalizing depth with
  | nil =>
      obtain rfl := Option.some.inj behind
      rfl
  | cons letter left inductionHypothesis =>
      rw [List.cons_append, depthBehind]
      rw [depthBehind] at behind
      cases turned : turn depth letter with
      | within depth =>
          rw [turned] at behind
          exact inductionHypothesis behind
      | cut | close => simp [turned] at behind

theorem KeepsDepth.append (keepsLeft : KeepsDepth depth left)
    (keepsRight : KeepsDepth depth right) : KeepsDepth depth (left ++ right) :=
  (depthBehind_append keepsLeft).trans keepsRight

/-- Letters that keep an item going at a depth keep the depth. -/
theorem keepsDepth_of_turn (within : ∀ letter ∈ letters, turn depth letter = .within depth) :
    KeepsDepth depth letters := by
  induction letters with
  | nil => rfl
  | cons letter letters inductionHypothesis =>
      rw [KeepsDepth, depthBehind, within letter (.head _)]
      exact inductionHypothesis fun other member => within other (.tail _ member)

/-- A letter of plain text that is another character, or no plain text. -/
theorem isPlain_eq_false {letter : Letter} {marks : List Char} {mark : Char}
    (apart : letter.role = .plain → letter.character ∉ marks) (isMark : mark ∈ marks) :
    letter.isPlain mark = false := by
  rw [Letter.isPlain, Bool.and_eq_false_iff, decide_eq_false_iff_not, decide_eq_false_iff_not]
  by_cases plain : letter.role = .plain
  · exact .inl fun same => apart plain (same ▸ isMark)
  · exact .inr plain

/-- A letter in quotes is no character of plain text. -/
theorem isPlain_of_mem_quoted {text : List Char} {letter : Letter} {mark : Char}
    (member : letter ∈ lettersAs .quoted text) : letter.isPlain mark = false := by
  simp [Letter.isPlain, (mem_lettersAs.1 member).2]

/-- Letters that are neither parentheses nor commas of plain text keep the depth. -/
theorem keepsDepth_of_unmarked
    (unmarked : ∀ letter ∈ letters, letter.role = .plain → letter.character ∉ ['(', ')', ',']) :
    KeepsDepth depth letters := by
  refine keepsDepth_of_turn fun letter member => ?_
  have other (mark : Char) (isMark : mark ∈ ['(', ')', ',']) : letter.isPlain mark = false :=
    isPlain_eq_false (unmarked letter member) isMark
  rw [turn, other '(' (by decide), other ')' (by decide), other ',' (by decide)]
  rfl

/-- Inside parentheses, commas keep the depth as well. -/
theorem keepsDepth_inside
    (unmarked : ∀ letter ∈ letters, letter.role = .plain → letter.character ∉ ['(', ')']) :
    KeepsDepth (depth + 1) letters := by
  refine keepsDepth_of_turn fun letter member => ?_
  have other (mark : Char) (isMark : mark ∈ ['(', ')']) : letter.isPlain mark = false :=
    isPlain_eq_false (unmarked letter member) isMark
  simp [turn, other '(' (by decide), other ')' (by decide)]

/-- Letters of a quoted text keep the depth. -/
theorem keepsDepth_quoted {text : List Char} : KeepsDepth depth (lettersAs .quoted text) := by
  refine keepsDepth_of_unmarked fun letter member plain => ?_
  simp [(mem_lettersAs.1 member).2] at plain

/-- Letters between parentheses keep the depth, if they keep the one inside. -/
theorem KeepsDepth.parenthesised (keeps : KeepsDepth (depth + 1) letters) :
    KeepsDepth depth (⟨'(', .plain⟩ :: (letters ++ [⟨')', .plain⟩])) := by
  have inside : depthBehind depth (⟨'(', .plain⟩ :: (letters ++ [⟨')', .plain⟩])) =
      depthBehind (depth + 1) (letters ++ [⟨')', .plain⟩]) := rfl
  rw [KeepsDepth, inside, depthBehind_append keeps]
  rfl

/-- Letters that keep an item going are part of it. -/
theorem itemsFrom_append (item rest : List Letter) {behind : Nat}
    (level : depthBehind depth letters = some behind) :
    itemsFrom depth item (letters ++ rest) = itemsFrom behind (item ++ letters) rest := by
  induction letters generalizing depth item with
  | nil =>
      obtain rfl := Option.some.inj level
      simp
  | cons letter letters inductionHypothesis =>
      rw [List.cons_append, itemsFrom]
      rw [depthBehind] at level
      cases turned : turn depth letter with
      | within depth =>
          rw [turned] at level
          simpa using inductionHypothesis (item ++ [letter]) level
      | cut | close => simp [turned] at level

end Depth

section Items

variable {letters item : List Letter}

/-- Whether an item is the given letters with blanks around them. -/
def Pads (letters item : List Letter) : Prop :=
  ∃ front back, item = front ++ (letters ++ back) ∧ (∀ letter ∈ front, letter.isBlank = true)
    ∧ ∀ letter ∈ back, letter.isBlank = true

/-- Blanks keep the depth. -/
theorem keepsDepth_of_blank {depth : Nat} (blank : ∀ letter ∈ letters, letter.isBlank = true) :
    KeepsDepth depth letters := by
  refine keepsDepth_of_unmarked fun letter member _ isMark => ?_
  have marks : ['(', ')', ','].all (!Text.isBlank ·) = true := by decide
  have visible := List.all_eq_true.1 marks _ isMark
  have isBlank := blank letter member
  rw [Letter.isBlank, Bool.and_eq_true] at isBlank
  simp [isBlank.1] at visible

/-- Groups with commas between each two are cut into the groups. -/
theorem itemsFrom_separated {quote : Char} {separator : String} {gap : List Char}
    {groups : List (List Piece)} (front back rest : List Letter)
    (comma : separator.toList = ',' :: gap)
    (blank : ∀ letter ∈ lettersAs .plain gap, letter.isBlank = true) (nonempty : groups ≠ [])
    (keeps : ∀ group ∈ groups, KeepsDepth 0 (lettersOf quote group))
    (blankFront : ∀ letter ∈ front, letter.isBlank = true)
    (blankBack : ∀ letter ∈ back, letter.isBlank = true) :
    ∃ items, itemsFrom 0 front (lettersOf quote (Piece.separated separator groups)
          ++ (back ++ ⟨')', .plain⟩ :: rest)) = some (items, rest)
      ∧ List.Forall₂ (fun group item => Pads (lettersOf quote group) item) groups items := by
  induction groups generalizing front with
  | nil => exact absurd rfl nonempty
  | cons group groups inductionHypothesis =>
      have here := keeps group (.head _)
      cases groups with
      | nil =>
          refine ⟨[front ++ (lettersOf quote group ++ back)], ?_,
            .cons ⟨front, back, rfl, blankFront, blankBack⟩ .nil⟩
          rw [Piece.separated, itemsFrom_append _ _ here,
            itemsFrom_append _ _ (keepsDepth_of_blank blankBack), List.append_assoc]
          rfl
      | cons next groups =>
          obtain ⟨items, cut, pads⟩ := inductionHypothesis (lettersAs .plain gap)
            (List.cons_ne_nil _ _) (fun other member => keeps other (.tail _ member)) blank
          refine ⟨(front ++ lettersOf quote group) :: items, ?_,
            .cons ⟨front, [], by simp, blankFront, by simp⟩ pads⟩
          -- Behind the comma, the blanks of the separator are in front of the next group.
          rw [separated_cons_cons, lettersOf_append, lettersOf_cons, List.append_assoc,
            itemsFrom_append _ _ here, Piece.role, Piece.text, comma, lettersAs_cons,
            List.append_assoc, List.cons_append, itemsFrom]
          have turned : turn 0 ⟨',', .plain⟩ = .cut := rfl
          rw [turned]
          dsimp only
          rw [itemsFrom_append _ _ (keepsDepth_of_blank blank), List.nil_append, cut]
          rfl

/-- Items with something else than blanks in them are all kept. -/
theorem filledItems_of_pads {quote : Char} {groups : List (List Piece)}
    {items : List (List Letter)}
    (pads : List.Forall₂ (fun group item => Pads (lettersOf quote group) item) groups items)
    (filled : ∀ group ∈ groups, ∃ letter ∈ lettersOf quote group, letter.isBlank = false) :
    filledItems items = items := by
  cases pads with
  | nil => rfl
  | cons first others =>
      cases others with
      | nil =>
          obtain ⟨front, back, rfl, -, -⟩ := first
          obtain ⟨letter, member, solid⟩ := filled _ (.head _)
          simp only [filledItems, ite_eq_right_iff]
          intro blank
          have isBlank := List.all_eq_true.1 blank letter (by simp [member])
          simp [solid] at isBlank
      | cons => rfl

/-- The items between parentheses. -/
theorem itemsOf_parenthesised {before inside : List Letter}
    (closed : ∀ letter ∈ before, letter.isPlain '(' = false) :
    itemsOf (before ++ ⟨'(', .plain⟩ :: inside) =
      (itemsFrom 0 [] inside).map fun found => (filledItems found.1, found.2) := by
  have dropped : (before ++ ⟨'(', .plain⟩ :: inside).dropWhile (fun letter => !letter.isPlain '(') =
      ⟨'(', .plain⟩ :: inside := by
    rw [List.dropWhile_append_of_pos (by simpa using closed)]
    rfl
  rw [itemsOf, dropped]

/-- Items are read one by one, each by what it has between its blanks. -/
theorem mapM_of_pads {α : Type} {quote : Char} {read : List Letter → Option α}
    {groups : List (List Piece)} {items : List (List Letter)} {results : List α}
    (pads : List.Forall₂ (fun group item => Pads (lettersOf quote group) item) groups items)
    (reads : List.Forall₂ (fun group result => ∀ item, Pads (lettersOf quote group) item →
      read item = some result) groups results) :
    items.mapM read = some results := by
  induction pads generalizing results with
  | nil =>
      cases reads
      rfl
  | cons first others inductionHypothesis =>
      cases reads with
      | cons readFirst readOthers => simp [readFirst _ first, inductionHypothesis readOthers]

/-- Dropping the blanks in front of an item. -/
theorem Pads.dropWhile (pads : Pads letters item)
    (solid : letters.head?.any (!·.isBlank) = true) :
    ∃ back, item.dropWhile Letter.isBlank = letters ++ back
      ∧ ∀ letter ∈ back, letter.isBlank = true := by
  obtain ⟨front, back, rfl, blankFront, blankBack⟩ := pads
  refine ⟨back, ?_, blankBack⟩
  rw [List.dropWhile_append_of_pos blankFront]
  cases letters with
  | nil => simp at solid
  | cons first letters =>
      rw [List.cons_append, List.dropWhile_cons_of_neg (by simpa using solid)]

/-- Blanks at the start of letters belong to those around them. -/
theorem Pads.of_append {front : List Letter} (blank : ∀ letter ∈ front, letter.isBlank = true)
    (pads : Pads (front ++ letters) item) : Pads letters item := by
  obtain ⟨more, back, rfl, blankMore, blankBack⟩ := pads
  refine ⟨more ++ front, back, by simp, fun letter member => ?_, blankBack⟩
  exact (List.mem_append.1 member).elim (blankMore letter) (blank letter)

end Items

section Words

variable {letters left right : List Letter}

/-- A letter that belongs to no word separates words. -/
theorem wordsOf_cons {letter : Letter} (apart : letter.isOfWord = false) :
    wordsOf (letter :: letters) = wordsOf letters := by
  rw [wordsOf, List.splitOnP_cons_eq_if_modifyHead, apart]
  simp [wordsOf]

/-- The words of letters in a row, when no word goes over the border. -/
theorem wordsOf_append (apart : right.head?.any Letter.isOfWord = false) :
    wordsOf (left ++ right) = wordsOf left ++ wordsOf right := by
  cases right with
  | nil => simp [wordsOf]
  | cons letter right =>
      have separates : letter.isOfWord = false := by simpa using apart
      rw [wordsOf_cons separates, wordsOf, List.splitOnP_append_cons _ _ (by simp [separates])]
      simp [wordsOf]

/-- Letters that belong to no word have no words. -/
theorem wordsOf_eq_nil (apart : ∀ letter ∈ letters, letter.isOfWord = false) :
    wordsOf letters = [] := by
  induction letters with
  | nil => simp [wordsOf]
  | cons letter letters inductionHypothesis =>
      rw [wordsOf_cons (apart letter (.head _))]
      exact inductionHypothesis fun other member => apart other (.tail _ member)

/-- Quoted letters have no words. -/
theorem wordsOf_quoted (text : List Char) : wordsOf (lettersAs .quoted text) = [] :=
  wordsOf_eq_nil fun letter member => by simp [Letter.isOfWord, (mem_lettersAs.1 member).2]

/-- A blank belongs to no word. -/
theorem not_isOfWord_of_isBlank {letter : Letter} (blank : letter.isBlank = true) :
    letter.isOfWord = false := by
  rw [Letter.isBlank, Bool.and_eq_true] at blank
  rw [Letter.isOfWord, Bool.and_eq_false_iff]
  left
  by_contra word
  rw [Bool.not_eq_false, Bool.or_eq_true, decide_eq_true_eq] at word
  simp [Text.isBlank_of_isAlphanum word] at blank

/-- Blanks behind letters add no words. -/
theorem wordsOf_append_blank (blank : ∀ letter ∈ right, letter.isBlank = true) :
    wordsOf (left ++ right) = wordsOf left := by
  have apart (letter : Letter) (member : letter ∈ right) : letter.isOfWord = false :=
    not_isOfWord_of_isBlank (blank letter member)
  have starts : right.head?.any Letter.isOfWord = false := by
    cases right with
    | nil => rfl
    | cons first others => exact apart first (.head _)
  rw [wordsOf_append starts, wordsOf_eq_nil apart, List.append_nil]

/-- A word is made of characters of plain text. -/
theorem exists_letter_of_mem_wordsOf {word : String} {character : Char}
    (member : word ∈ wordsOf letters) (inWord : character ∈ word.toList) :
    ⟨character, .plain⟩ ∈ letters := by
  obtain ⟨run, inLetters, rfl⟩ := List.mem_map.1 member
  rw [String.toList_ofList] at inWord
  obtain ⟨⟨character, role⟩, inRun, rfl⟩ := List.mem_map.1 inWord
  have kept := Text.exists_mem_splitOnP_iff.1 ⟨run, (List.mem_filter.1 inLetters).1, inRun⟩
  simp only [Letter.isOfWord, Bool.not_eq_false', Bool.and_eq_true, decide_eq_true_eq] at kept
  obtain rfl : role = .plain := kept.2.2
  exact kept.1

end Words

end DbSchema.Sql
