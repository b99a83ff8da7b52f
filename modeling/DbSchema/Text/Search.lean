/-!
# Searching texts

Whether one text occurs in another. Main statement: it occurs exactly when the other text is it with
something in front and something behind.
-/

namespace DbSchema.Text

/-- Whether `part` occurs in the characters as one stretch. -/
def occurs (part : List Char) : List Char → Bool
  | [] => part.isEmpty
  | character :: rest => part.isPrefixOf (character :: rest) || occurs part rest

/-- A text occurs exactly when it is a stretch of the other. -/
theorem occurs_iff {part whole : List Char} : occurs part whole = true ↔ part <:+: whole := by
  induction whole with
  | nil => simp [occurs]
  | cons character rest inductionHypothesis =>
    simp [occurs, inductionHypothesis, List.infix_cons_iff]

/-- Whether one text occurs in another. -/
def occursIn (part whole : String) : Bool :=
  occurs part.toList whole.toList

end DbSchema.Text
