import DbSchema.Diagram.Basic
import Mathlib.Data.Sym.Sym2

/-!
# Pairs of tables without their order

Which pairs of tables a diagram links although no relationship does. Taken without their order, the
pairs that `newPairs` keeps are exactly those that are given and not known, and each of them is kept
once; the order in which they are given only decides which way round they are.
-/

namespace DbSchema.Diagram

/-- The two tables of a pair without their order. -/
def unordered (pair : String × String) : Sym2 String :=
  s(pair.1, pair.2)

/-- Pairs are the same apart from their order exactly when they are the same without it. -/
theorem samePair_iff {left right : String × String} :
    samePair left right = true ↔ unordered left = unordered right := by
  rw [unordered, unordered, Sym2.eq_iff]
  simp [samePair, Prod.ext_iff]

theorem any_samePair_iff {pair : String × String} {known : List (String × String)} :
    known.any (samePair pair) = true ↔ unordered pair ∈ known.map unordered := by
  simp only [List.any_eq_true, samePair_iff, List.mem_map, eq_comm (a := unordered pair)]

/-- Without their order, the new pairs are those that are given and not known. -/
theorem mem_newPairs_iff {known pairs : List (String × String)} {pair : Sym2 String} :
    pair ∈ (newPairs known pairs).map unordered ↔
      pair ∈ pairs.map unordered ∧ pair ∉ known.map unordered := by
  induction pairs generalizing known with
  | nil => simp [newPairs]
  | cons next pairs inductionHypothesis =>
      rw [newPairs]
      split
      case isTrue old =>
        rw [any_samePair_iff] at old
        rw [inductionHypothesis, List.map_cons, List.mem_cons]
        refine and_congr_left fun new => (or_iff_right ?_).symm
        rintro rfl
        exact new old
      case isFalse new =>
        rw [any_samePair_iff] at new
        simp only [List.map_cons, List.mem_cons, inductionHypothesis]
        by_cases same : pair = unordered next
        · simp [same, new]
        · simp [same]

/-- Without their order, all new pairs are different. -/
theorem nodup_newPairs (known pairs : List (String × String)) :
    ((newPairs known pairs).map unordered).Nodup := by
  induction pairs generalizing known with
  | nil => exact .nil
  | cons next pairs inductionHypothesis =>
      rw [newPairs]
      split
      case isTrue => exact inductionHypothesis known
      case isFalse =>
        rw [List.map_cons, List.nodup_cons, mem_newPairs_iff]
        refine ⟨fun ⟨_, unknown⟩ => unknown ?_, inductionHypothesis _⟩
        exact List.mem_cons_self

end DbSchema.Diagram
