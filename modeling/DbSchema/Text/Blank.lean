/-!
# Blank characters

Which characters separate words, and the ways of cutting them away. `words` and `trim` treat every
Unicode space alike; nothing else counts as blank, so a zero width space is an ordinary character.
-/

namespace DbSchema.Text

/-- A character is blank exactly when it has the Unicode property White_Space. -/
def isBlank (character : Char) : Bool :=
  let code := character.toNat
  (9 ≤ code && code ≤ 13) || code == 0x20 || code == 0x85 || code == 0xA0 || code == 0x1680
    || (0x2000 ≤ code && code ≤ 0x200A) || code == 0x2028 || code == 0x2029 || code == 0x202F
    || code == 0x205F || code == 0x3000

/-- The text without the longest run at its end that satisfies `drop`. -/
def dropTrailing (drop : Char → Bool) (text : List Char) : List Char :=
  (text.reverse.dropWhile drop).reverse

/-- The text without the blanks at its start. -/
def trimStart (text : List Char) : List Char :=
  text.dropWhile isBlank

/-- The text without the blanks at its end. -/
def trimEnd (text : List Char) : List Char :=
  dropTrailing isBlank text

/-- The text without the blanks at either end. -/
def trim (text : String) : String :=
  .ofList (trimEnd (trimStart text.toList))

/-- A text is blank exactly when all of its characters are. -/
def isBlankText (text : String) : Bool :=
  text.toList.all isBlank

/-- The non-empty stretches between blanks, in order. -/
def words (text : List Char) : List (List Char) :=
  (text.splitOnP isBlank).filter fun word => !word.isEmpty

/-- Dropping at the end keeps a text whose last character is not dropped. -/
theorem dropTrailing_append_singleton {drop : Char → Bool} {last : Char} (text : List Char)
    (kept : drop last = false) : dropTrailing drop (text ++ [last]) = text ++ [last] := by
  simp [dropTrailing, kept]

/-- A last character that is dropped makes no difference to what is left. -/
theorem dropTrailing_append_dropped {drop : Char → Bool} {last : Char} (text : List Char)
    (dropped : drop last = true) : dropTrailing drop (text ++ [last]) = dropTrailing drop text := by
  simp [dropTrailing, dropped]

/-- What is left after dropping at the end is the start of the text. -/
theorem dropTrailing_prefix (drop : Char → Bool) (text : List Char) :
    dropTrailing drop text <+: text := by
  have suffix := List.dropWhile_suffix drop (l := text.reverse)
  simpa [dropTrailing] using List.reverse_prefix.2 suffix

/-- What is dropped at the end is the longest run there that satisfies `drop`. -/
theorem dropTrailing_append_run (drop : Char → Bool) (text : List Char) :
    dropTrailing drop text ++ (text.reverse.takeWhile drop).reverse = text := by
  rw [dropTrailing, ← List.reverse_append, List.takeWhile_append_dropWhile, List.reverse_reverse]

/-- The last character that is left does not satisfy `drop`. -/
theorem getLast?_dropTrailing (drop : Char → Bool) (text : List Char) :
    (dropTrailing drop text).getLast?.any drop = false := by
  rw [dropTrailing, List.getLast?_reverse]
  have first := List.head?_dropWhile_not drop text.reverse
  cases found : (text.reverse.dropWhile drop).head? with
  | none => rfl
  | some character => simpa [found] using first

end DbSchema.Text
