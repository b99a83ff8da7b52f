/-!
# Bytes of texts

How long a text is in UTF-8, as far as a reader has to know it before it looks at the characters.
-/

namespace DbSchema.Text

/-- Whether a text has fewer than `count` bytes. -/
def shorterThan : (count : Nat) → (text : List Char) → Bool
  | 0, _ => false
  | _ + 1, [] => true
  | count + 1, character :: rest => shorterThan (count + 1 - character.utf8Size) rest

/-- A text has no fewer bytes than characters. -/
theorem shorterThan_eq_false {count : Nat} {text : List Char} (enough : count ≤ text.length) :
    shorterThan count text = false := by
  induction text generalizing count with
  | nil =>
      obtain rfl := Nat.le_zero.1 enough
      rfl
  | cons character rest inductionHypothesis =>
      cases count with
      | zero => rfl
      | succ count =>
          have positive := character.utf8Size_pos
          rw [List.length_cons] at enough
          rw [shorterThan]
          exact inductionHypothesis (by omega)

end DbSchema.Text
