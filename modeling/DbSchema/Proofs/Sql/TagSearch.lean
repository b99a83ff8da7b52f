import DbSchema.Proofs.Sql.BodyTag
import Mathlib.Data.Nat.Find
import Mathlib.Data.String.Basic

/-!
# The search for a tag ends

The tag of a body that has two dollar signs in it is found by testing one candidate after the other,
with a number that counts up and no bound on the tests. `TagSearch` is that search, test by test. A
search that has come far has seen as many candidates occur, and a text with fewer characters than
candidates cannot hold them all, so that the length of the body bounds both the tests and the
number. What is found is the tag that `bodyTag` chooses.
-/

namespace DbSchema.Sql

/-- A search for a tag between two tests: the candidate that is tested next, and the number that the
one behind it is made from. -/
structure TagSearch where
  candidate : String
  number : Nat
  deriving DecidableEq, Repr

namespace TagSearch

/-- The search before its first test. -/
def start : TagSearch := ⟨"$body$", 1⟩

/-- The search behind a test that found its candidate in the body: there is another candidate, and
the number counts up. -/
def advanced (search : TagSearch) : TagSearch :=
  ⟨"$body" ++ .ofList (naturalText search.number) ++ "$", search.number + 1⟩

/-- The searches that are reached by tests that find their candidates in the body, with the number
of these tests. -/
inductive Reached (body : String) : Nat → TagSearch → Prop where
  | start : Reached body 0 start
  | advance {tests : Nat} {search : TagSearch} (reached : Reached body tests search)
      (occurs : Text.occursIn search.candidate body = true) :
      Reached body (tests + 1) search.advanced

/-- Whether the search ends with the next test. -/
def Ends (body : String) (search : TagSearch) : Prop :=
  Text.occursIn search.candidate body = false

end TagSearch

section Searching

variable {body : String} {tests : Nat} {search : TagSearch}

/-- The search that is reached by a number of tests. -/
theorem TagSearch.Reached.eq (reached : Reached body tests search) :
    search = ⟨tagCandidate tests, tests + 1⟩ := by
  induction reached with
  | start => rfl
  | advance reached occurs inductionHypothesis =>
      rw [inductionHypothesis]
      rfl

/-- Every candidate that was tested occurs in the body. -/
theorem TagSearch.Reached.occurs (reached : Reached body tests search) (earlier : Nat)
    (tested : earlier < tests) : Text.occursIn (tagCandidate earlier) body = true := by
  induction reached with
  | start => exact absurd tested (Nat.not_lt_zero earlier)
  | advance reached occurs inductionHypothesis =>
      rcases Nat.lt_succ_iff_lt_or_eq.1 tested with before | rfl
      · exact inductionHypothesis before
      · rwa [reached.eq] at occurs

/-- As long as the candidates occur in the body, the search goes on. -/
theorem reached_of_occurs
    (occurs : ∀ earlier < tests, Text.occursIn (tagCandidate earlier) body = true) :
    TagSearch.Reached body tests ⟨tagCandidate tests, tests + 1⟩ := by
  induction tests with
  | zero => exact .start
  | succ tests inductionHypothesis =>
      have reached := inductionHypothesis fun earlier before => occurs earlier (by omega)
      exact reached.advance (occurs tests (Nat.lt_succ_self tests))

/-- A text has no fewer bytes than characters. -/
theorem length_le_utf8ByteSize (text : String) : text.length ≤ text.utf8ByteSize := by
  rw [← String.length_toList, ← String.utf8Len_toList]
  induction text.toList with
  | nil => exact Nat.le_refl 0
  | cons character rest inductionHypothesis =>
      have positive := character.utf8Size_pos
      rw [List.length_cons, String.utf8Len_cons]
      omega

/-- Of as many candidates as a body has characters and one more, one does not occur in it. -/
theorem exists_candidate_not_in (body : String) :
    ∃ index ≤ body.length, Text.occursIn (tagCandidate index) body = false := by
  obtain ⟨index, bound, absent⟩ := exists_absent_candidate body.toList
  rw [String.length_toList] at bound
  refine ⟨index, bound, ?_⟩
  rwa [Text.occursIn, Bool.eq_false_iff, ne_eq, Text.occurs_iff]

/-- No more candidates are found in a body than it has characters. -/
theorem TagSearch.Reached.tests_le (reached : Reached body tests search) :
    tests ≤ body.length := by
  obtain ⟨index, bound, absent⟩ := exists_candidate_not_in body
  by_contra far
  have occurs := reached.occurs index (by omega)
  rw [absent] at occurs
  exact Bool.false_ne_true occurs

/-- The search ends, with the first candidate that does not occur in the body. -/
theorem exists_ending_search (body : String) :
    ∃ tests search, TagSearch.Reached body tests search ∧ search.Ends body := by
  obtain ⟨index, -, absent⟩ := exists_candidate_not_in body
  have some : ∃ index, Text.occursIn (tagCandidate index) body = false := ⟨index, absent⟩
  refine ⟨Nat.find some, ⟨tagCandidate (Nat.find some), Nat.find some + 1⟩, ?_, Nat.find_spec some⟩
  refine reached_of_occurs fun earlier before => ?_
  simpa using Nat.find_min some before

/-- Where two dollar signs occur, the tag of a body is what the search ends with. -/
theorem bodyTag_eq_of_ends (dollars : Text.occursIn "$$" body = true)
    (reached : TagSearch.Reached body tests search) (ends : search.Ends body) :
    bodyTag body = search.candidate := by
  have bound : tests < body.length + 1 := Nat.lt_succ_of_le reached.tests_le
  have absent : Text.occursIn (tagCandidate tests) body = false := by
    rw [reached.eq] at ends
    exact ends
  have found : (List.range (body.length + 1)).find?
      ((fun tag => !Text.occursIn tag body) ∘ tagCandidate) = some tests := by
    refine List.find?_range_eq_some.2 ⟨by simp [absent], List.mem_range.2 bound, ?_⟩
    intro earlier before
    simpa using reached.occurs earlier before
  rw [bodyTag, if_pos dollars]
  dsimp only
  rw [List.find?_map, found, reached.eq]
  rfl

end Searching

end DbSchema.Sql
