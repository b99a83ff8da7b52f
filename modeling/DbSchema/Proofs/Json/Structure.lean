import DbSchema.Json.Node
import DbSchema.Proofs.Json.Spelling

/-!
# Written values as trees

A value that is written, on one line or over several, is the tree of its structure: `nodeOf` says
which. Both written forms have the same tokens, `tokensOf`, and these are put together into the tree
wherever the value stands. Nothing is asked of a value but that its numbers are exact.
-/

namespace DbSchema.Json

mutual

/-- The tokens that a value is written with. -/
def tokensOf : Json → List Token
  | .null => [.null]
  | .boolean value => [.boolean value]
  | .number value => [.number (.ok value)]
  | .text value => [.text ⟨.ok value, none⟩]
  | .list items => .mark .openList :: (itemTokens items ++ [.mark .closeList])
  | .object members => .mark .openObject :: (memberTokens members ++ [.mark .closeObject])

/-- The tokens of items with commas between them. -/
def itemTokens : List Json → List Token
  | [] => []
  | [item] => tokensOf item
  | item :: items => tokensOf item ++ .mark .comma :: itemTokens items

/-- The tokens of members with commas between them. -/
def memberTokens : List (String × Json) → List Token
  | [] => []
  | [(key, value)] => .text ⟨.ok key, none⟩ :: .mark .colon :: tokensOf value
  | (key, value) :: members =>
    .text ⟨.ok key, none⟩ :: .mark .colon :: tokensOf value ++ .mark .comma :: memberTokens members

end

mutual

/-- The tree of a value. -/
def nodeOf : Json → Node
  | .null => .leaf .null
  | .boolean value => .leaf (.boolean value)
  | .number value => .leaf (.number (.ok value))
  | .text value => .leaf (.text ⟨.ok value, none⟩)
  | .list items => .list (itemNodes items) .closed
  | .object members => .object (memberNodes members) .closed

/-- The trees of items. -/
def itemNodes : List Json → List Node
  | [] => []
  | item :: items => nodeOf item :: itemNodes items

/-- The trees of members, behind their keys. -/
def memberNodes : List (String × Json) → List (Quoted × Node)
  | [] => []
  | (key, value) :: members => (⟨.ok key, none⟩, nodeOf value) :: memberNodes members

end

mutual

/-- Whether all numbers of a value are exact. -/
def Exact : Json → Prop
  | .number value => IsExact value
  | .list items => ItemsExact items
  | .object members => MembersExact members
  | .null | .boolean _ | .text _ => True

/-- Whether all numbers of items are exact. -/
def ItemsExact : List Json → Prop
  | [] => True
  | item :: items => Exact item ∧ ItemsExact items

/-- Whether all numbers of members are exact. -/
def MembersExact : List (String × Json) → Prop
  | [] => True
  | (_, value) :: members => Exact value ∧ MembersExact members

end

section Cutting

/-- Blanks between tokens are passed over. -/
theorem tokens_space {character : Char} (rest : List Char) (space : isSpace character = true) :
    tokens (character :: rest) = tokens rest := by
  rw [tokens]
  simp [space]

/-- A mark is a token. -/
theorem tokens_mark {character : Char} {mark : Mark} (rest : List Char)
    (noSpace : isSpace character = false) (isMark : markOf character = some mark) :
    tokens (character :: rest) = .mark mark :: tokens rest :=
  tokens_of_cut noSpace (by simp [cutToken, isMark])

/-- A line end and indentation are passed over. -/
theorem tokens_newLine (level : Nat) (rest : List Char) :
    tokens (newLine level ++ rest) = tokens rest := by
  have indented (count : Nat) : tokens (List.replicate count ' ' ++ rest) = tokens rest := by
    induction count with
    | zero => rfl
    | succ count inductionHypothesis =>
        rw [List.replicate_succ, List.cons_append, tokens_space _ (by decide), inductionHypothesis]
  rw [newLine, List.cons_append, tokens_space _ (by decide), indented]

/-- A word is a token. -/
theorem tokens_booleanText (value : Bool) (rest : List Char) :
    tokens (booleanText value ++ rest) = .boolean value :: tokens rest := by
  cases value <;> exact tokens_of_cut (by decide) rfl

theorem tokens_null (rest : List Char) :
    tokens (['n', 'u', 'l', 'l'] ++ rest) = .null :: tokens rest :=
  tokens_of_cut (by decide) rfl

theorem delimits_comma (rest : List Char) : Delimits (',' :: rest) :=
  delimits_cons rest (by decide)

theorem delimits_closeList (rest : List Char) : Delimits (']' :: rest) :=
  delimits_cons rest (by decide)

theorem delimits_closeObject (rest : List Char) : Delimits ('\x7d' :: rest) :=
  delimits_cons rest (by decide)

theorem delimits_newLine (level : Nat) (rest : List Char) : Delimits (newLine level ++ rest) :=
  delimits_cons _ (by decide)

/-- The tokens of what stands between two marks, which are tokens themselves. -/
theorem tokens_between {opening closing : Char} {openMark closeMark : Mark}
    {insideTokens : List Token} (inside rest : List Char) (opens : markOf opening = some openMark)
    (closes : markOf closing = some closeMark)
    (noSpaces : isSpace opening = false ∧ isSpace closing = false)
    (cut : tokens (inside ++ closing :: rest) = insideTokens ++ tokens (closing :: rest)) :
    tokens (opening :: (inside ++ [closing]) ++ rest) =
      .mark openMark :: (insideTokens ++ [.mark closeMark]) ++ tokens rest := by
  rw [List.cons_append, List.append_assoc, List.singleton_append, tokens_mark _ noSpaces.1 opens,
    cut, tokens_mark _ noSpaces.2 closes]
  simp

/-- The tokens of a key, the colon behind it, and its value. -/
theorem tokens_member {value : List Char} {valueTokens : List Token} (key : String)
    (blanks rest : List Char) (passed : ∀ text, tokens (blanks ++ text) = tokens text)
    (cut : tokens (value ++ rest) = valueTokens ++ tokens rest) :
    tokens (quoted key ++ ':' :: (blanks ++ (value ++ rest))) =
      .text ⟨.ok key, none⟩ :: .mark .colon :: valueTokens ++ tokens rest := by
  rw [tokens_quoted, tokens_mark _ (by decide) (rfl : markOf ':' = some .colon), passed, cut]
  rfl

/-- The tokens of a comma and of what stands around it. -/
theorem tokens_comma {first others : List Char} {firstTokens otherTokens : List Token}
    (rest : List Char) (before : tokens (first ++ ',' :: (others ++ rest)) =
      firstTokens ++ tokens (',' :: (others ++ rest)))
    (behind : tokens (others ++ rest) = otherTokens ++ tokens rest) :
    tokens (first ++ ',' :: others ++ rest) =
      firstTokens ++ .mark .comma :: otherTokens ++ tokens rest := by
  rw [List.append_assoc, List.cons_append, before,
    tokens_mark _ (by decide) (rfl : markOf ',' = some .comma), behind]
  simp

mutual

/-- The tokens of a value on one line. -/
theorem tokens_compact (value : Json) (exact : Exact value) {rest : List Char}
    (delimits : Delimits rest) :
    tokens (compact value ++ rest) = tokensOf value ++ tokens rest := by
  match value with
  | .null => exact tokens_null rest
  | .boolean value => exact tokens_booleanText value rest
  | .number value => exact tokens_number exact delimits
  | .text value => exact tokens_quoted value rest
  | .list items =>
      exact tokens_between _ rest rfl rfl (by decide)
        (tokens_compactItems items exact (delimits_closeList rest))
  | .object members =>
      exact tokens_between _ rest rfl rfl (by decide)
        (tokens_compactMembers members exact (delimits_closeObject rest))

/-- The tokens of items on one line. -/
theorem tokens_compactItems (items : List Json) (exact : ItemsExact items) {rest : List Char}
    (delimits : Delimits rest) :
    tokens (compactItems items ++ rest) = itemTokens items ++ tokens rest := by
  match items with
  | [] => rfl
  | [item] => exact tokens_compact item exact.1 delimits
  | item :: next :: items =>
      exact tokens_comma rest (tokens_compact item exact.1 (delimits_comma _))
        (tokens_compactItems (next :: items) exact.2 delimits)

/-- The tokens of members on one line. -/
theorem tokens_compactMembers (members : List (String × Json)) (exact : MembersExact members)
    {rest : List Char} (delimits : Delimits rest) :
    tokens (compactMembers members ++ rest) = memberTokens members ++ tokens rest := by
  match members with
  | [] => rfl
  | [(key, value)] =>
      rw [compactMembers, List.append_assoc]
      exact tokens_member key [] rest (fun _ => rfl)
        (tokens_compact value exact.1 delimits)
  | (key, value) :: next :: members =>
      refine tokens_comma rest ?_ (tokens_compactMembers (next :: members) exact.2 delimits)
      rw [List.append_assoc]
      exact tokens_member key [] _ (fun _ => rfl)
        (tokens_compact value exact.1 (delimits_comma _))

end

mutual

/-- The tokens of a value over several lines. -/
theorem tokens_pretty (level : Nat) (value : Json) (exact : Exact value) {rest : List Char}
    (delimits : Delimits rest) :
    tokens (pretty level value ++ rest) = tokensOf value ++ tokens rest := by
  match value with
  | .null => exact tokens_null rest
  | .boolean value => exact tokens_booleanText value rest
  | .number value => exact tokens_number exact delimits
  | .text value => exact tokens_quoted value rest
  | .list [] => exact tokens_between [] rest rfl rfl (by decide) rfl
  | .list (item :: items) =>
      refine tokens_between _ rest rfl rfl (by decide) ?_
      rw [List.append_assoc,
        tokens_prettyItems (level + 1) (item :: items) exact (delimits_newLine level _),
        tokens_newLine]
  | .object [] => exact tokens_between [] rest rfl rfl (by decide) rfl
  | .object (member :: members) =>
      refine tokens_between _ rest rfl rfl (by decide) ?_
      rw [List.append_assoc,
        tokens_prettyMembers (level + 1) (member :: members) exact (delimits_newLine level _),
        tokens_newLine]

/-- The tokens of items on lines of their own. -/
theorem tokens_prettyItems (level : Nat) (items : List Json) (exact : ItemsExact items)
    {rest : List Char} (delimits : Delimits rest) :
    tokens (prettyItems level items ++ rest) = itemTokens items ++ tokens rest := by
  match items with
  | [] => rfl
  | [item] =>
      rw [prettyItems, List.append_assoc, tokens_newLine]
      exact tokens_pretty level item exact.1 delimits
  | item :: next :: items =>
      refine tokens_comma rest ?_ (tokens_prettyItems level (next :: items) exact.2 delimits)
      rw [List.append_assoc, tokens_newLine]
      exact tokens_pretty level item exact.1 (delimits_comma _)

/-- The tokens of members on lines of their own. -/
theorem tokens_prettyMembers (level : Nat) (members : List (String × Json))
    (exact : MembersExact members) {rest : List Char} (delimits : Delimits rest) :
    tokens (prettyMembers level members ++ rest) = memberTokens members ++ tokens rest := by
  match members with
  | [] => rfl
  | [(key, value)] =>
      rw [prettyMembers, List.append_assoc, List.append_assoc, tokens_newLine]
      exact tokens_member key [' '] rest (fun text => tokens_space text (by decide))
        (tokens_pretty level value exact.1 delimits)
  | (key, value) :: next :: members =>
      refine tokens_comma rest ?_ (tokens_prettyMembers level (next :: members) exact.2 delimits)
      rw [List.append_assoc, List.append_assoc, tokens_newLine]
      exact tokens_member key [' '] _ (fun text => tokens_space text (by decide))
        (tokens_pretty level value exact.1 (delimits_comma _))

end

end Cutting

section Building

/-- The tokens of items start with those of the first. -/
theorem itemTokens_cons (item : Json) (items : List Json) :
    ∃ others, itemTokens (item :: items) = tokensOf item ++ others := by
  cases items with
  | nil => exact ⟨[], by rw [itemTokens, List.append_nil]⟩
  | cons next items => exact ⟨.mark .comma :: itemTokens (next :: items), by rw [itemTokens]; simp⟩

/-- The first item of a list is put into the list as every later one is. -/
theorem foldl_tokensOf_itemOrEnd (item : Json) (frames : List Frame) :
    (tokensOf item).foldl Progress.next (.itemOrEnd frames) =
      (tokensOf item).foldl Progress.next (.valueNext (.list [] :: frames)) := by
  cases item <;> rw [tokensOf] <;> rfl

/-- An item behind a comma is put into the list around it. -/
theorem foldl_tokensOf_nextItem (item : Json) (before : List Node) (frames : List Frame) :
    (tokensOf item).foldl Progress.next (.nextItem before frames) =
      (tokensOf item).foldl Progress.next (.valueNext (.list before :: frames)) := by
  cases item <;> rw [tokensOf] <;> rfl

/-- The first member of an object is put into the object as every later one is. -/
theorem foldl_memberTokens_keyOrEnd (member : String × Json) (members : List (String × Json))
    (frames : List Frame) :
    (memberTokens (member :: members)).foldl Progress.next (.keyOrEnd frames) =
      (memberTokens (member :: members)).foldl Progress.next (.nextKey [] frames) := by
  cases members <;> rfl

mutual

/-- The tokens of a value are put together into its tree. -/
theorem foldl_tokensOf (value : Json) (frames : List Frame) :
    (tokensOf value).foldl Progress.next (.valueNext frames) =
      Progress.place (nodeOf value) frames := by
  match value with
  | .null | .boolean _ | .number _ | .text _ => rfl
  | .list [] => rfl
  | .list (item :: items) =>
      -- Only the first token behind the bracket is met where the list might end.
      obtain ⟨others, split⟩ := itemTokens_cons item items
      have inside : (itemTokens (item :: items)).foldl Progress.next (.itemOrEnd frames) =
          .afterItem (itemNodes (item :: items)).reverse frames := by
        have built := foldl_itemTokens (item :: items) (List.cons_ne_nil _ _) [] frames
        rw [split, List.foldl_append] at built ⊢
        rw [foldl_tokensOf_itemOrEnd, built, List.append_nil]
      have opened : Progress.next (.valueNext frames) (.mark .openList) = .itemOrEnd frames := rfl
      rw [tokensOf, List.foldl_cons, List.foldl_append, opened, inside, nodeOf]
      simp [Progress.next]
  | .object [] => rfl
  | .object (member :: members) =>
      have inside := foldl_memberTokens (member :: members) (List.cons_ne_nil _ _) [] frames
      have opened : Progress.next (.valueNext frames) (.mark .openObject) = .keyOrEnd frames := rfl
      rw [tokensOf, List.foldl_cons, List.foldl_append, opened, foldl_memberTokens_keyOrEnd, inside,
        nodeOf]
      simp [Progress.next]

/-- The tokens of items are put together into their trees, behind the items that came before. -/
theorem foldl_itemTokens (items : List Json) (nonempty : items ≠ []) (before : List Node)
    (frames : List Frame) :
    (itemTokens items).foldl Progress.next (.valueNext (.list before :: frames)) =
      .afterItem ((itemNodes items).reverse ++ before) frames := by
  match items with
  | [item] =>
      rw [itemTokens, foldl_tokensOf]
      rfl
  | item :: next :: items =>
      obtain ⟨others, split⟩ := itemTokens_cons next items
      have behind := foldl_itemTokens (next :: items) (List.cons_ne_nil _ _)
        (nodeOf item :: before) frames
      rw [split, List.foldl_append, ← foldl_tokensOf_nextItem, ← List.foldl_append, ← split]
        at behind
      have cut : itemTokens (item :: next :: items) =
          tokensOf item ++ .mark .comma :: itemTokens (next :: items) := rfl
      rw [cut, List.foldl_append, foldl_tokensOf, List.foldl_cons, Progress.place, Progress.next,
        behind]
      simp [itemNodes]

/-- The tokens of members are put together into their trees, behind the members that came
before. -/
theorem foldl_memberTokens (members : List (String × Json)) (nonempty : members ≠ [])
    (before : List (Quoted × Node)) (frames : List Frame) :
    (memberTokens members).foldl Progress.next (.nextKey before frames) =
      .afterMember ((memberNodes members).reverse ++ before) frames := by
  match members with
  | [(key, value)] =>
      have built := foldl_tokensOf value (.object before ⟨.ok key, none⟩ :: frames)
      rw [memberTokens, List.foldl_cons, List.foldl_cons, Progress.next, Progress.next, built]
      rfl
  | (key, value) :: next :: members =>
      have built := foldl_tokensOf value (.object before ⟨.ok key, none⟩ :: frames)
      have behind := foldl_memberTokens (next :: members) (List.cons_ne_nil _ _)
        ((⟨.ok key, none⟩, nodeOf value) :: before) frames
      have cut : memberTokens ((key, value) :: next :: members) =
          .text ⟨.ok key, none⟩ :: .mark .colon ::
            (tokensOf value ++ .mark .comma :: memberTokens (next :: members)) := rfl
      rw [cut, List.foldl_cons, List.foldl_cons, Progress.next, Progress.next, List.foldl_append,
        built, List.foldl_cons, Progress.place, Progress.next, behind]
      simp [memberNodes]

end

/-- The tokens of a value spell its tree and nothing behind it. -/
theorem ofTokens_tokensOf (value : Json) :
    Document.ofTokens (tokensOf value) = ⟨nodeOf value, false⟩ := by
  rw [Document.ofTokens, foldl_tokensOf]
  rfl

end Building

/-- A text that is cut into the tokens of a value spells the tree of the value. -/
theorem ofText_of_tokens {text : List Char} {value : Json}
    (cut : tokens (text ++ []) = tokensOf value ++ tokens []) :
    Document.ofText (.ofList text) = ⟨nodeOf value, false⟩ := by
  have stops : tokens [] = [] := by rw [tokens]
  rw [List.append_nil, stops, List.append_nil] at cut
  rw [Document.ofText, String.toList_ofList, cut, ofTokens_tokensOf]

/-- A value on one line spells its tree. -/
theorem ofText_compactText (value : Json) (exact : Exact value) :
    Document.ofText (compactText value) = ⟨nodeOf value, false⟩ :=
  ofText_of_tokens (tokens_compact value exact delimits_nil)

/-- A value over several lines spells its tree. -/
theorem ofText_prettyText (value : Json) (exact : Exact value) :
    Document.ofText (prettyText value) = ⟨nodeOf value, false⟩ :=
  ofText_of_tokens (tokens_pretty 0 value exact delimits_nil)

end DbSchema.Json
