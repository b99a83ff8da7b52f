import DbSchema.Text.Quoted
import Mathlib.Data.List.Infix

/-!
# Rows of quoted texts

Quoted texts with a separator between each two, and a reader that takes them apart again. A text may
have the separator and the quote character in it, in any number and place: what ends it is the first
quote character that is not doubled, and only there the reader looks for a separator. So a row is
read back whatever follows it, unless that is another quote character or another separator.
-/

namespace DbSchema.Text

section Length

variable {quote : Char} {text found rest : List Char}

/-- Behind the closing quote character there is less than before it. -/
theorem length_lt_of_readDoubled (read : readDoubled quote text = some (found, rest)) :
    rest.length < text.length := by
  fun_induction readDoubled quote text generalizing found with
  | case1 | case3 => simp at read
  | case2 | case5 =>
      obtain ⟨-, rfl⟩ := Prod.mk.inj (Option.some.inj read)
      simp
  | case4 _ inductionHypothesis | case6 _ _ _ _ inductionHypothesis =>
      obtain ⟨⟨inner, behind⟩, readBehind, both⟩ := Option.map_eq_some_iff.1 read
      obtain ⟨-, rfl⟩ := Prod.mk.inj both
      have shorter := inductionHypothesis readBehind
      simp only [List.length_cons] at shorter ⊢
      omega

/-- Behind a quoted text there is less than before it. -/
theorem length_lt_of_readQuoted (read : readQuoted quote text = some (found, rest)) :
    rest.length < text.length := by
  cases text with
  | nil => simp [readQuoted] at read
  | cons character text =>
      rw [readQuoted] at read
      split at read
      · exact Nat.lt_succ_of_lt (length_lt_of_readDoubled read)
      · simp at read

end Length

/-- The texts in quotes, with a separator between each two. -/
def quotedRow (quote : Char) (separator : List Char) (texts : List String) : List Char :=
  separator.intercalate (texts.map fun text => (quoteWith quote text).toList)

/-- Reads a quoted text, and another one behind each separator: the texts read and what follows the
last of them, or nothing if a quote character is missing. -/
def readSeparated (quote : Char) (separator text : List Char) : Option (List String × List Char) :=
  match _ : readQuoted quote text with
  | none => none
  | some (item, rest) =>
    if separator.isPrefixOf rest then
      (readSeparated quote separator (rest.drop separator.length)).map fun found =>
        (.ofList item :: found.1, found.2)
    else some ([.ofList item], rest)
  termination_by text.length
  decreasing_by
    have shorter := length_lt_of_readQuoted ‹_›
    rw [List.length_drop]
    omega

/-- Reads a row of quoted texts at the start of the characters. Where they do not start with a quote
character, the row is empty. -/
def readRow (quote : Char) (separator text : List Char) : Option (List String × List Char) :=
  if text.head? = some quote then readSeparated quote separator text else some ([], text)

/-- Whether a row ends where the given characters begin. -/
structure EndsRow (quote : Char) (separator rest : List Char) : Prop where
  noQuote : rest.head? ≠ some quote
  noSeparator : ¬separator <+: rest

section Rows

variable {quote : Char} {separator rest : List Char}

/-- A row of texts, the first of which is known. -/
theorem quotedRow_cons_cons (first next : String) (texts : List String) :
    quotedRow quote separator (first :: next :: texts) =
      (quoteWith quote first).toList
        ++ (separator ++ quotedRow quote separator (next :: texts)) := by
  simp [quotedRow, List.intercalate_cons_cons]

/-- Behind the last text of a row, the reader stops. -/
theorem readSeparated_quoteWith (text : String) (ends : EndsRow quote separator rest) :
    readSeparated quote separator ((quoteWith quote text).toList ++ rest) =
      some ([text], rest) := by
  have noSeparator : ¬separator.isPrefixOf rest = true := by
    rw [List.isPrefixOf_iff_prefix]
    exact ends.noSeparator
  rw [readSeparated]
  split
  case h_1 unread => simp only [readQuoted_quoteWith text ends.noQuote, reduceCtorEq] at unread
  case h_2 item behind read =>
    rw [readQuoted_quoteWith text ends.noQuote] at read
    obtain ⟨rfl, rfl⟩ := Prod.mk.inj (Option.some.inj read)
    rw [if_neg noSeparator, String.ofList_toList]

/-- At a separator, the reader goes on behind it. -/
theorem readSeparated_append (text : String) (rest : List Char)
    (apart : (separator ++ rest).head? ≠ some quote) :
    readSeparated quote separator ((quoteWith quote text).toList ++ (separator ++ rest)) =
      (readSeparated quote separator rest).map fun found => (text :: found.1, found.2) := by
  have here : separator.isPrefixOf (separator ++ rest) = true :=
    List.isPrefixOf_iff_prefix.2 (List.prefix_append _ _)
  rw [readSeparated]
  split
  case h_1 unread => simp only [readQuoted_quoteWith text apart, reduceCtorEq] at unread
  case h_2 item behind read =>
    rw [readQuoted_quoteWith text apart] at read
    obtain ⟨rfl, rfl⟩ := Prod.mk.inj (Option.some.inj read)
    rw [if_pos here, List.drop_left, String.ofList_toList]

/-- A row is read back, together with what follows it. -/
theorem readRow_quotedRow (apart : separator.head? ≠ some quote)
    (ends : EndsRow quote separator rest) (texts : List String) :
    readRow quote separator (quotedRow quote separator texts ++ rest) = some (texts, rest) := by
  have nonempty : separator ≠ [] := by
    rintro rfl
    exact ends.noSeparator List.nil_prefix
  have separated (first : String) (texts : List String) :
      readSeparated quote separator (quotedRow quote separator (first :: texts) ++ rest) =
        some (first :: texts, rest) := by
    induction texts generalizing first with
    | nil => simpa [quotedRow] using readSeparated_quoteWith first ends
    | cons next texts inductionHypothesis =>
        rw [quotedRow_cons_cons, List.append_assoc, List.append_assoc, readSeparated_append,
          inductionHypothesis]
        · rfl
        · rwa [List.head?_append_of_ne_nil _ nonempty]
  cases texts with
  | nil => exact if_neg ends.noQuote
  | cons first texts =>
      have starts : (quotedRow quote separator (first :: texts) ++ rest).head? = some quote := by
        cases texts <;> simp [quotedRow, List.intercalate_cons_cons]
      rw [readRow, if_pos starts, separated]

/-- Nothing ends a row. -/
theorem endsRow_nil (nonempty : separator ≠ []) : EndsRow quote separator [] :=
  ⟨by simp, by simpa using nonempty⟩

/-- Rows of different texts are different. -/
theorem quotedRow_injective (apart : separator.head? ≠ some quote) (nonempty : separator ≠ []) :
    Function.Injective (quotedRow quote separator) := by
  intro texts texts' same
  have read := readRow_quotedRow apart (endsRow_nil nonempty) texts
  rw [same, readRow_quotedRow apart (endsRow_nil nonempty) texts'] at read
  exact (Prod.mk.inj (Option.some.inj read)).1.symm

end Rows

end DbSchema.Text
