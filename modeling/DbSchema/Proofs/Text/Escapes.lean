import DbSchema.Text.Quoted

/-!
# Literals with escapes

A literal is written with its quote marks doubled, and some databases read more into it than that: a
backslash in a literal is not there for itself, but changes what the character behind it stands for.
`readEscapedLiteral_quoteLiteral_iff` says for which texts this makes no difference.
-/

namespace DbSchema.Text

/-- What a backslash together with the character behind it stands for in a literal. The two
characters that need one stand for themselves behind a backslash. -/
structure EscapeRules where
  meaning : Char → List Char
  atMostTwo : ∀ character, (meaning character).length ≤ 2
  backslash : meaning '\\' = ['\\']
  quote : meaning '\'' = ['\'']

namespace EscapeRules

variable (rules : EscapeRules)

/-- Reads the inside of a literal up to the first quote mark that is neither doubled nor behind a
backslash: what it stands for and what follows the mark, or nothing if there is no such mark. -/
def readEscaped : List Char → Option (List Char × List Char)
  | [] => none
  | character :: rest =>
    if character = '\\' then
      match rest with
      | [] => none
      | next :: behind =>
        (readEscaped behind).map fun found => (rules.meaning next ++ found.1, found.2)
    else if character = '\'' then
      match rest with
      | [] => some ([], [])
      | next :: behind =>
        if next = '\'' then (readEscaped behind).map fun found => ('\'' :: found.1, found.2)
        else some ([], next :: behind)
    else (readEscaped rest).map fun found => (character :: found.1, found.2)

/-- Reads a literal at the start of the characters. -/
def readEscapedLiteral : List Char → Option (List Char × List Char)
  | [] => none
  | character :: rest => if character = '\'' then rules.readEscaped rest else none

/-- Whether every backslash of a text, together with the character behind it, stands for just these
two. -/
def Spares : List Char → Prop
  | [] => True
  | character :: rest =>
    if character = '\\' then
      match rest with
      | [] => False
      | next :: behind => rules.meaning next = ['\\', next] ∧ Spares behind
    else Spares rest

instance decidableSpares : (text : List Char) → Decidable (rules.Spares text)
  | [] => .isTrue trivial
  | [character] => decidable_of_iff (character ≠ '\\') (by simp [Spares])
  | character :: next :: rest =>
    have := decidableSpares rest
    have := decidableSpares (next :: rest)
    decidable_of_iff (if character = '\\' then rules.meaning next = ['\\', next] ∧ rules.Spares rest
      else rules.Spares (next :: rest)) (by simp [Spares])

section Reading

@[simp] theorem readEscaped_nil : rules.readEscaped [] = none := rfl

@[simp] theorem readEscaped_backslash (next : Char) (rest : List Char) :
    rules.readEscaped ('\\' :: next :: rest) =
      (rules.readEscaped rest).map fun found => (rules.meaning next ++ found.1, found.2) := by
  simp [readEscaped]

@[simp] theorem readEscaped_quotes (rest : List Char) :
    rules.readEscaped ('\'' :: '\'' :: rest) =
      (rules.readEscaped rest).map fun found => ('\'' :: found.1, found.2) := by
  simp [readEscaped]

theorem readEscaped_end {rest : List Char} (ends : rest.head? ≠ some '\'') :
    rules.readEscaped ('\'' :: rest) = some ([], rest) := by
  cases rest with
  | nil => simp [readEscaped]
  | cons next rest => simpa [readEscaped] using ends

theorem readEscaped_other {character : Char} (rest : List Char) (noBackslash : character ≠ '\\')
    (noQuote : character ≠ '\'') :
    rules.readEscaped (character :: rest) =
      (rules.readEscaped rest).map fun found => (character :: found.1, found.2) := by
  rw [readEscaped.eq_def]
  simp [noBackslash, noQuote]

/-- What is found in front of a part that is read leaves as much behind it as the part does. -/
theorem exists_of_map_eq_some {inner : Option (List Char × List Char)}
    {front : List Char → List Char} {found rest : List Char}
    (read : (inner.map fun found => (front found.1, found.2)) = some (found, rest)) :
    ∃ text, inner = some (text, rest) ∧ front text = found := by
  obtain ⟨⟨text, left⟩, same, both⟩ := Option.map_eq_some_iff.1 read
  obtain ⟨rfl, rfl⟩ := Prod.mk.inj both
  exact ⟨text, same, rfl⟩

/-- The inside of a literal is never empty: it has the closing mark. -/
theorem length_lt_of_readEscaped {text found rest : List Char}
    (read : rules.readEscaped text = some (found, rest)) : rest.length < text.length := by
  fun_induction readEscaped rules text generalizing found with
  | case1 | case2 => simp at read
  | case4 | case6 =>
      obtain ⟨-, rfl⟩ := Prod.mk.inj (Option.some.inj read)
      simp
  | case3 _ _ inductionHypothesis | case5 _ _ inductionHypothesis
  | case7 _ _ _ _ inductionHypothesis =>
      obtain ⟨inner, readBehind, -⟩ := exists_of_map_eq_some read
      have shorter := inductionHypothesis readBehind
      simp only [List.length_cons]
      omega

end Reading

section Doubled

variable {text found rest : List Char}

/-- A quote mark behind a backslash is taken for itself, so that of the two that are written for it
the second is taken for the first of two. The literal does not end where it was meant to then. -/
theorem rest_ne_of_read_shifted {left : List Char}
    (read : rules.readEscaped ('\'' :: (doubled '\'' text ++ '\'' :: rest)) = some (found, left)) :
    left ≠ rest := by
  induction text generalizing found with
  | nil =>
      obtain ⟨inner, readBehind, -⟩ := exists_of_map_eq_some (rules.readEscaped_quotes _ ▸ read)
      have shorter := rules.length_lt_of_readEscaped readBehind
      exact fun same => absurd (congrArg List.length same) (by omega)
  | cons character text inductionHypothesis =>
      by_cases same : character = '\''
      · rw [doubled, if_pos same, List.cons_append, readEscaped_quotes] at read
        obtain ⟨inner, readBehind, -⟩ := exists_of_map_eq_some read
        exact inductionHypothesis readBehind
      · rw [doubled, if_neg same, List.cons_append,
          readEscaped_end rules (by simpa using same)] at read
        obtain ⟨-, rfl⟩ := Prod.mk.inj (Option.some.inj read)
        intro same
        have lengths := congrArg List.length same
        simp only [List.length_cons, List.length_append] at lengths
        omega

/-- The literal of a spared text is read as this text. -/
theorem readEscaped_doubled (spared : rules.Spares text) (ends : rest.head? ≠ some '\'') :
    rules.readEscaped (doubled '\'' text ++ '\'' :: rest) = some (text, rest) := by
  fun_induction Spares rules text with
  | case1 => simpa [doubled] using rules.readEscaped_end ends
  | case2 => exact spared.elim
  | case3 next behind inductionHypothesis =>
      have noQuote : next ≠ '\'' := fun same => by simp [same, rules.quote] at spared
      simp [doubled, noQuote, inductionHypothesis spared.2, spared.1]
  | case4 character behind noBackslash inductionHypothesis =>
      by_cases same : character = '\''
      · simp [doubled, same, inductionHypothesis spared]
      · simp [doubled, same, readEscaped_other rules _ noBackslash same, inductionHypothesis spared]

/-- What the literal of a text is read as, when it ends where it was meant to, is not longer than
the text, and the text itself only if that is spared. -/
theorem spares_of_readEscaped (ends : rest.head? ≠ some '\'')
    (read : rules.readEscaped (doubled '\'' text ++ '\'' :: rest) = some (found, rest)) :
    found.length ≤ text.length ∧ (found = text → rules.Spares text) := by
  fun_induction Spares rules text generalizing found with
  | case1 =>
      rw [doubled, List.nil_append, rules.readEscaped_end ends] at read
      obtain ⟨rfl, -⟩ := Prod.mk.inj (Option.some.inj read)
      exact ⟨Nat.le_refl _, fun _ => trivial⟩
  | case2 =>
      -- The backslash takes the closing mark, and the literal goes on in what follows it.
      have taken : doubled '\'' ['\\'] ++ '\'' :: rest = '\\' :: '\'' :: rest := rfl
      rw [taken, readEscaped_backslash] at read
      obtain ⟨inner, readBehind, -⟩ := exists_of_map_eq_some read
      exact absurd (rules.length_lt_of_readEscaped readBehind) (Nat.lt_irrefl _)
  | case3 next behind inductionHypothesis =>
      by_cases isQuote : next = '\''
      · have shifted : doubled '\'' ('\\' :: next :: behind) ++ '\'' :: rest =
            '\\' :: '\'' :: '\'' :: (doubled '\'' behind ++ '\'' :: rest) := by
          simp [doubled, isQuote]
        rw [shifted, readEscaped_backslash] at read
        obtain ⟨inner, readBehind, -⟩ := exists_of_map_eq_some read
        exact absurd rfl (rules.rest_ne_of_read_shifted readBehind)
      · have kept : doubled '\'' ('\\' :: next :: behind) ++ '\'' :: rest =
            '\\' :: next :: (doubled '\'' behind ++ '\'' :: rest) := by
          simp [doubled, isQuote]
        rw [kept, readEscaped_backslash] at read
        obtain ⟨inner, readBehind, rfl⟩ := exists_of_map_eq_some read
        obtain ⟨shorter, spared⟩ := inductionHypothesis readBehind
        have atMostTwo := rules.atMostTwo next
        refine ⟨by simp only [List.length_append, List.length_cons]; omega, fun same => ?_⟩
        have whole : rules.meaning next ++ inner = ['\\', next] ++ behind := same
        -- Nothing makes up for an escape that stands for fewer than two characters.
        have lengths := congrArg List.length whole
        simp only [List.length_append, List.length_cons, List.length_nil] at lengths
        have two : (rules.meaning next).length = ['\\', next].length := by
          simp only [List.length_cons, List.length_nil]
          omega
        obtain ⟨meaning, same⟩ := List.append_inj whole two
        exact ⟨meaning, spared same⟩
  | case4 character behind noBackslash inductionHypothesis =>
      have read : (rules.readEscaped (doubled '\'' behind ++ '\'' :: rest)).map
          (fun found => (character :: found.1, found.2)) = some (found, rest) := by
        by_cases isQuote : character = '\''
        · simpa [doubled, isQuote] using read
        · simpa [doubled, isQuote, readEscaped_other rules _ noBackslash isQuote] using read
      obtain ⟨inner, readBehind, rfl⟩ := exists_of_map_eq_some read
      obtain ⟨shorter, spared⟩ := inductionHypothesis readBehind
      exact ⟨by simpa using shorter, fun same => spared (List.cons.inj same).2⟩

/-- The literal of a text is read as this text, and ends where it was meant to, exactly when the
text is spared. -/
theorem readEscapedLiteral_quoteLiteral_iff {text : String} (ends : rest.head? ≠ some '\'') :
    rules.readEscapedLiteral ((quoteLiteral text).toList ++ rest) = some (text.toList, rest) ↔
      rules.Spares text.toList := by
  have inside : rules.readEscapedLiteral ((quoteLiteral text).toList ++ rest) =
      rules.readEscaped (doubled '\'' text.toList ++ '\'' :: rest) := by
    simp [quoteLiteral, readEscapedLiteral]
  rw [inside]
  exact ⟨fun read => (rules.spares_of_readEscaped ends read).2 rfl,
    fun spared => rules.readEscaped_doubled spared ends⟩

end Doubled

section Spared

variable {text : List Char}

/-- A text without backslashes is spared. -/
theorem spares_of_not_mem (none : '\\' ∉ text) : rules.Spares text := by
  fun_induction Spares rules text with
  | case1 => trivial
  | case2 | case3 => simp at none
  | case4 _ _ _ inductionHypothesis => exact inductionHypothesis fun member => none (.tail _ member)

/-- A text that ends in a backslash is not spared. -/
theorem not_spares_of_getLast? (ends : text.getLast? = some '\\') : ¬rules.Spares text := by
  fun_induction Spares rules text with
  | case1 => simp at ends
  | case2 => exact not_false
  | case3 next behind inductionHypothesis =>
      rintro ⟨meaning, spared⟩
      cases behind with
      | nil =>
          obtain rfl : next = '\\' := by simpa using ends
          simp [rules.backslash] at meaning
      | cons first rest => exact inductionHypothesis (by simpa using ends) spared
  | case4 character behind noBackslash inductionHypothesis =>
      cases behind with
      | nil => exact absurd (by simpa using ends) noBackslash
      | cons first rest => exact inductionHypothesis (by simpa using ends)

/-- Where no escape stands for itself, the texts without backslashes are the only ones that are
spared. -/
theorem spares_iff_not_mem (changes : ∀ character, rules.meaning character ≠ ['\\', character]) :
    rules.Spares text ↔ '\\' ∉ text := by
  refine ⟨fun spared => ?_, rules.spares_of_not_mem⟩
  fun_induction Spares rules text with
  | case1 => simp
  | case2 => exact spared.elim
  | case3 next _ _ => exact absurd spared.1 (changes next)
  | case4 _ _ noBackslash inductionHypothesis =>
      simpa [Ne.symm noBackslash] using inductionHypothesis spared

end Spared

end EscapeRules

end DbSchema.Text
