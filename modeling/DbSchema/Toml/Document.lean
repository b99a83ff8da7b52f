import DbSchema.Toml.Scan

/-!
# TOML texts

Values with lists and inline tables in them, the lines of a text, and the table that a whole text
spells.
-/

namespace DbSchema.Toml

namespace Scan

mutual

/-- Takes a value that stands inside `depth` lists and inline tables. `fuel` bounds the number of
steps. -/
def value : (fuel depth : Nat) → Scan Item
  | 0, _ => failure
  | fuel + 1, depth =>
    (.text <$> text) <|> boolean <|> special <|> dateTime <|> pointed <|> integer
      <|> (do
        mark '['
        if depth + 1 < depthLimit then
          filler
          return .list (← listItems fuel (depth + 1))
        else failure)
      <|> (do
        mark '\x7b'
        if depth + 1 < depthLimit then
          blanks
          let pairs ←
            match ← attempt (mark '\x7d') with
            | some () => pure []
            | none => inlinePairs fuel (depth + 1)
          match addPairs .inline [] pairs with
          | some entries => return .table .inline entries
          | none => failure
        else failure)

/-- Takes the rest of a list where an item or the closing bracket may come. -/
def listItems : (fuel depth : Nat) → Scan (List Item)
  | 0, _ => failure
  | fuel + 1, depth =>
    (do mark ']'; return [])
      <|> do
        let item ← value fuel depth
        filler
        match ← attempt (mark ',') with
        | some () =>
          filler
          return item :: (← listItems fuel depth)
        | none =>
          mark ']'
          return [item]

/-- Takes the rest of an inline table where a pair must come. -/
def inlinePairs : (fuel depth : Nat) → Scan (List Pair)
  | 0, _ => failure
  | fuel + 1, depth => do
    let (path, key) ← dottedKey
    mark '='
    blanks
    let item ← value fuel depth
    blanks
    match ← attempt (mark ',') with
    | some () => return ⟨path, key, item⟩ :: (← inlinePairs fuel depth)
    | none =>
      mark '\x7d'
      return [⟨path, key, item⟩]

end

/-- What a line may hold beside blanks and a comment. -/
inductive Expression where
  | header (header : Header)
  | pair (pair : Pair)

/-- Takes a header with its line. -/
def header : Scan Header :=
  (do
    word ['[', '[']
    let (path, key) ← dottedKey
    word [']', ']']
    restOfLine
    return ⟨path, key, true⟩)
    <|> do
      mark '['
      let (path, key) ← dottedKey
      mark ']'
      restOfLine
      return ⟨path, key, false⟩

/-- Takes a pair with its line. -/
def pair : Scan Pair := do
  let (path, key) ← dottedKey
  mark '='
  blanks
  let item ← value (2 * (← fuel)) 0
  restOfLine
  return ⟨path, key, item⟩

/-- Takes all lines of a text. -/
def expressions : (fuel : Nat) → Scan (List Expression)
  | 0 => failure
  | fuel + 1 => do
    blanks
    match ← attempt atEnd with
    | some () => return []
    | none =>
      match ← attempt ((do comment; lineEnd) <|> newline) with
      | some () => expressions fuel
      | none =>
        let expression ← (.header <$> header) <|> (.pair <$> pair)
        return expression :: (← expressions fuel)

/-- The pairs before the first header, and the sections. -/
def sectionsOf : List Expression → List Pair × List Section
  | [] => ([], [])
  | .pair pair :: rest =>
    let (pairs, sections) := sectionsOf rest
    (pair :: pairs, sections)
  | .header header :: rest =>
    let (pairs, sections) := sectionsOf rest
    ([], ⟨header, pairs⟩ :: sections)

end Scan

/-- The table that a text spells, or nothing if it is not TOML. A byte order mark in front is passed
over. -/
def ofText? (text : String) : Option Entries := do
  let characters :=
    match text.toList with
    | '\uFEFF' :: rest => rest
    | characters => characters
  let (expressions, _) ← (Scan.expressions (characters.length + 2)).run characters
  let (pairs, sections) := Scan.sectionsOf expressions
  rootTable pairs sections

end DbSchema.Toml
