import DbSchema.Proofs.Diagram.Pairs
import DbSchema.Proofs.Diagram.ReadingBack
import Mathlib.Data.Finset.Basic
import Mathlib.Data.String.Basic

/-!
# Links that foreign keys imply

Which links a diagram has beside those of its relationships. A pair of tables is kept where it comes
first among the foreign keys, so that the pairs stand in the order of these first keys and the way
round that these have; taken without their order, they are the pairs of foreign keys that no
relationship joins, each once. So every foreign key is on a line of the diagram, if not on its own.

The pairs are also found in one pass, with a set of those that were met, each in the order of its
names: `foldl_collect`.
-/

namespace DbSchema.Diagram

/-- Whether a relationship joins the two tables of a pair, in either direction. -/
def Related (schema : Schema) (pair : String × String) : Prop :=
  ∃ relationship ∈ schema.relationships,
    (relationship.sourceTable = pair.1 ∧ relationship.targetTable = pair.2)
      ∨ (relationship.sourceTable = pair.2 ∧ relationship.targetTable = pair.1)

instance (schema : Schema) (pair : String × String) : Decidable (Related schema pair) :=
  inferInstanceAs (Decidable (∃ _ ∈ _, _))

/-- The place of the first pair that equals a given one apart from the order. -/
def firstPlace (pairs : List (String × String)) (pair : String × String) : Nat :=
  pairs.findIdx (samePair pair)

/-- The two names of a pair, the lesser one in front. -/
def ordered (pair : String × String) : String × String :=
  if pair.1 ≤ pair.2 then pair else (pair.2, pair.1)

/-- One step of the pass over the pairs: a pair that was not met is kept, and is met from now on. -/
def collect (found : Finset (String × String) × List (String × String))
    (pair : String × String) : Finset (String × String) × List (String × String) :=
  if ordered pair ∈ found.1 then found
  else (insert (ordered pair) found.1, found.2 ++ [pair])

section Pairs

variable {known pairs : List (String × String)} {pair : String × String}

/-- What is kept of the pairs is kept in their order. -/
theorem newPairs_sublist (known pairs : List (String × String)) :
    (newPairs known pairs).Sublist pairs := by
  induction pairs generalizing known with
  | nil => exact .slnil
  | cons next pairs inductionHypothesis =>
      rw [newPairs]
      split
      · exact (inductionHypothesis known).cons next
      · exact (inductionHypothesis _).cons_cons next

/-- A pair is the same as itself. -/
theorem samePair_self (pair : String × String) : samePair pair pair = true :=
  samePair_iff.2 rfl

/-- A pair that is kept is no known one. -/
theorem not_samePair_of_mem_newPairs {next : String × String}
    (kept : pair ∈ newPairs known pairs) (member : unordered next ∈ known.map unordered) :
    samePair pair next = false := by
  have unknown := (mem_newPairs_iff.1 (List.mem_map_of_mem kept)).2
  refine Bool.eq_false_iff.2 fun same => unknown ?_
  rwa [samePair_iff.1 same]

/-- A pair that is kept is the first among those that equal it apart from the order. -/
theorem find?_of_mem_newPairs (kept : pair ∈ newPairs known pairs) :
    pairs.find? (samePair pair) = some pair := by
  induction pairs generalizing known with
  | nil => simp [newPairs] at kept
  | cons next pairs inductionHypothesis =>
      rw [newPairs] at kept
      split at kept
      case isTrue old =>
        have other := not_samePair_of_mem_newPairs kept (any_samePair_iff.1 old)
        rw [List.find?_cons_of_neg (by simp [other])]
        exact inductionHypothesis kept
      case isFalse =>
        rcases List.mem_cons.1 kept with rfl | kept
        · exact List.find?_cons_of_pos (samePair_self pair)
        · have other : samePair pair next = false := not_samePair_of_mem_newPairs kept (.head _)
          rw [List.find?_cons_of_neg (by simp [other])]
          exact inductionHypothesis kept

/-- The pairs that are kept stand in the order of the first pairs that equal them. -/
theorem pairwise_firstPlace_newPairs (known pairs : List (String × String)) :
    (newPairs known pairs).Pairwise fun left right =>
      firstPlace pairs left < firstPlace pairs right := by
  -- Behind a pair that none of the kept ones equals, all of their places are one further.
  have behind {next : String × String} {known pairs : List (String × String)}
      (member : unordered next ∈ known.map unordered)
      (inOrder : (newPairs known pairs).Pairwise fun left right =>
        firstPlace pairs left < firstPlace pairs right) :
      (newPairs known pairs).Pairwise fun left right =>
        firstPlace (next :: pairs) left < firstPlace (next :: pairs) right := by
    refine inOrder.imp_of_mem fun keptLeft keptRight before => ?_
    simpa [firstPlace, List.findIdx_cons, not_samePair_of_mem_newPairs keptLeft member,
      not_samePair_of_mem_newPairs keptRight member] using before
  induction pairs generalizing known with
  | nil => exact .nil
  | cons next pairs inductionHypothesis =>
      rw [newPairs]
      split
      case isTrue old => exact behind (any_samePair_iff.1 old) (inductionHypothesis known)
      case isFalse =>
        have member : unordered next ∈ (next :: known).map unordered := .head _
        refine List.pairwise_cons.2 ⟨fun right kept => ?_, behind member (inductionHypothesis _)⟩
        simp [firstPlace, List.findIdx_cons, samePair_self,
          not_samePair_of_mem_newPairs kept member]

/-- Of each pair that is given and not known, exactly one is kept, and of no other pair any. -/
theorem countP_newPairs :
    (newPairs known pairs).countP (samePair pair) =
      if unordered pair ∈ pairs.map unordered ∧ unordered pair ∉ known.map unordered then 1
      else 0 := by
  have counted : (newPairs known pairs).countP (samePair pair) =
      ((newPairs known pairs).map unordered).count (unordered pair) := by
    rw [List.count, List.countP_map]
    refine List.countP_congr fun other _ => ?_
    rw [samePair_iff, Function.comp_apply, beq_iff_eq, eq_comm]
  rw [counted, (nodup_newPairs known pairs).count]
  simp only [mem_newPairs_iff]

/-- Pairs have the same ordered form exactly when they are the same without their order. -/
theorem ordered_eq_iff {left right : String × String} :
    ordered left = ordered right ↔ unordered left = unordered right := by
  have forget (pair : String × String) : unordered (ordered pair) = unordered pair := by
    unfold ordered
    split
    · rfl
    · exact Sym2.eq_swap
  constructor
  · intro same
    rw [← forget left, same, forget]
  · intro same
    rcases Sym2.eq_iff.1 same with ⟨first, second⟩ | ⟨first, second⟩
    · rw [Prod.ext first second]
    · obtain ⟨lesser, greater⟩ := right
      obtain rfl : left = (greater, lesser) := Prod.ext first second
      unfold ordered
      dsimp only
      split
      case isTrue below =>
        split
        case isTrue above => rw [le_antisymm below above]
        case isFalse => rfl
      case isFalse notBelow => rw [if_pos (le_of_not_ge notBelow)]

/-- One pass over the pairs keeps the new ones, if it starts with the set of those that are
known. -/
theorem foldl_collect {met : Finset (String × String)} (kept : List (String × String))
    (meets : ∀ pair, ordered pair ∈ met ↔ unordered pair ∈ known.map unordered) :
    (pairs.foldl collect (met, kept)).2 = kept ++ newPairs known pairs := by
  induction pairs generalizing known met kept with
  | nil => simp [newPairs]
  | cons next pairs inductionHypothesis =>
      rw [List.foldl_cons, collect, newPairs]
      by_cases old : ordered next ∈ met
      · rw [if_pos old, if_pos (any_samePair_iff.2 ((meets next).1 old))]
        exact inductionHypothesis kept meets
      · rw [if_neg old, if_neg fun any => old ((meets next).2 (any_samePair_iff.1 any))]
        have more (pair : String × String) :
            ordered pair ∈ insert (ordered next) met ↔
              unordered pair ∈ (next :: known).map unordered := by
          rw [Finset.mem_insert, ordered_eq_iff, meets, List.map_cons, List.mem_cons]
        rw [inductionHypothesis (kept ++ [next]) more, List.append_assoc, List.singleton_append]

end Pairs

section Schemas

variable {schema : Schema}

/-- The pairs of tables that relationships join. -/
def relatedPairs (schema : Schema) : List (String × String) :=
  schema.relationships.map fun relationship =>
    (relationship.sourceTable, relationship.targetTable)

/-- Tables are related exactly when their pair, without its order, is one of a relationship. -/
theorem related_iff {pair : String × String} :
    Related schema pair ↔ unordered pair ∈ (relatedPairs schema).map unordered := by
  simp only [Related, relatedPairs, List.map_map, List.mem_map, Function.comp_apply, unordered,
    Sym2.eq_iff]

/-- A pair is one of a foreign key exactly when its second table has a key to its first. -/
theorem mem_foreignKeyPairs_iff {pair : String × String} :
    pair ∈ foreignKeyPairs schema ↔
      ∃ table ∈ schema.tables, table.name = pair.2
        ∧ ∃ key ∈ table.foreignKeys, key.referencedTable = pair.1 := by
  simp only [foreignKeyPairs, List.mem_flatMap, List.mem_map, Prod.ext_iff]
  grind

/-- Every pair of a foreign key is on a link of the diagram, in one of the two directions. -/
theorem exists_link_of_mem_foreignKeyPairs {pair : String × String}
    (member : pair ∈ foreignKeyPairs schema) :
    ∃ link ∈ (ofSchema schema).links,
      s(link.source, link.target) = s(identifier pair.1, identifier pair.2) := by
  have shown {left right : String × String} (same : unordered left = unordered right) :
      s(identifier left.1, identifier left.2) = s(identifier right.1, identifier right.2) := by
    simpa [unordered] using congrArg (Sym2.map identifier) same
  by_cases related : unordered pair ∈ (relatedPairs schema).map unordered
  · obtain ⟨known, inRelated, same⟩ := List.mem_map.1 related
    obtain ⟨relationship, inSchema, rfl⟩ := List.mem_map.1 inRelated
    exact ⟨linkOf relationship, List.mem_append_left _ (List.mem_map_of_mem inSchema), shown same⟩
  · have implied : unordered pair ∈ (implicitPairs schema).map unordered :=
      mem_newPairs_iff.2 ⟨List.mem_map_of_mem member, related⟩
    obtain ⟨edge, inPairs, same⟩ := List.mem_map.1 implied
    exact ⟨implicitLink edge, List.mem_append_right _ (List.mem_map_of_mem inPairs), shown same⟩

/-- Every link of a diagram is read from a line of its text. -/
theorem exists_line_of_mem_links {link : Link} (member : link ∈ (ofSchema schema).links) :
    ∃ line ∈ (compile schema).toList.splitOn '\n', readLink? line = some link := by
  have readable := isReadable_ofSchema schema
  obtain ⟨source, target, caption⟩ := readable.links link member
  refine ⟨linkLine link, ?_, readLink?_line source target caption⟩
  have oneLine : ∀ line ∈ "erDiagram".toList :: bodyLines (ofSchema schema), '\n' ∉ line := by
    intro line inText
    rcases List.mem_cons.1 inText with rfl | inBody
    · decide
    · exact oneLine_of_mem_bodyLines readable inBody
  have some : (ofSchema schema).links.isEmpty = false :=
    List.isEmpty_eq_false_iff.2 (List.ne_nil_of_mem member)
  have inBody : linkLine link ∈ bodyLines (ofSchema schema) := by
    rw [bodyLines, some]
    exact List.mem_append_right _ (.tail _ (List.mem_map_of_mem member))
  rw [compile, toList_text, splitOn_ended oneLine]
  exact List.mem_append_left _ (.tail _ inBody)

end Schemas

/-- The pairs of tables that only foreign keys connect are each the pair of a foreign key, and no
relationship joins them. Every foreign key is either between tables that a relationship joins, and
then no such pair is that of its tables, or exactly one is; in both cases a line of the diagram
joins the two tables. No two of these pairs are the same apart from their order, each has the order
of the first foreign key between its tables, and they stand in the order of these keys. One pass
over the foreign keys finds them, with a set of the pairs that were met. -/
theorem foreignKeys_are_linked (schema : Schema) :
    let edges := implicitPairs schema
    let keys := foreignKeyPairs schema
    (∀ edge ∈ edges, ¬Related schema edge
      ∧ ∃ table ∈ schema.tables, table.name = edge.2
        ∧ ∃ key ∈ table.foreignKeys, key.referencedTable = edge.1)
      ∧ (∀ table ∈ schema.tables, ∀ key ∈ table.foreignKeys,
        let pair := (key.referencedTable, table.name)
        (Related schema pair ∧ edges.countP (samePair pair) = 0
            ∨ ¬Related schema pair ∧ edges.countP (samePair pair) = 1)
          ∧ ∃ line ∈ (compile schema).toList.splitOn '\n', ∃ link, readLink? line = some link
            ∧ s(link.source, link.target) =
              s(identifier key.referencedTable, identifier table.name))
      ∧ (edges.map unordered).Nodup
      ∧ (∀ edge ∈ edges, keys.find? (samePair edge) = some edge)
      ∧ (edges.Pairwise fun left right => firstPlace keys left < firstPlace keys right)
      ∧ edges = (keys.foldl collect (((relatedPairs schema).map ordered).toFinset, [])).2 := by
  intro edges keys
  refine ⟨fun edge kept => ⟨?_, ?_⟩, fun table inSchema key inTable => ?_,
    nodup_newPairs _ _, fun edge => find?_of_mem_newPairs, pairwise_firstPlace_newPairs _ _, ?_⟩
  · rw [related_iff]
    exact (mem_newPairs_iff.1 (List.mem_map_of_mem kept)).2
  · exact mem_foreignKeyPairs_iff.1 ((newPairs_sublist _ _).subset kept)
  · have member : (key.referencedTable, table.name) ∈ keys :=
      mem_foreignKeyPairs_iff.2 ⟨table, inSchema, rfl, key, inTable, rfl⟩
    refine ⟨?_, ?_⟩
    · have given : unordered (key.referencedTable, table.name) ∈ keys.map unordered :=
        List.mem_map_of_mem member
      by_cases related : Related schema (key.referencedTable, table.name)
      · refine .inl ⟨related, countP_newPairs.trans (if_neg fun new => ?_)⟩
        exact new.2 (related_iff.1 related)
      · exact .inr ⟨related, countP_newPairs.trans (if_pos ⟨given, mt related_iff.2 related⟩)⟩
    · obtain ⟨link, shown, joins⟩ := exists_link_of_mem_foreignKeyPairs member
      obtain ⟨line, inText, reads⟩ := exists_line_of_mem_links shown
      exact ⟨line, inText, link, reads, joins⟩
  · have meets (pair : String × String) :
        ordered pair ∈ ((relatedPairs schema).map ordered).toFinset ↔
          unordered pair ∈ (relatedPairs schema).map unordered := by
      simp only [List.mem_toFinset, List.mem_map, ordered_eq_iff]
    exact (foldl_collect [] meets).symm

/-- Tables with several foreign keys between the same two of them, in both directions, a key of a
table to itself, and keys between tables that a relationship joins the other way round. -/
def tangledKeys : Schema :=
  let table (name : String) (references : List String) : Table :=
    { Table.empty name name with
      foreignKeys := references.map fun reference => .between "" "" "" reference "id" }
  { Schema.empty "" "s" .postgresql default with
    tables :=
      [table "orders" ["items", "users", "orders", "users"], table "users" ["orders", "items"],
        table "items" ["orders"]]
    relationships := [.between "" ("items", "id") ("orders", "id") .oneToMany] }

/-- Of these keys, three are linked on their own, each in the direction of its first key, and a key
between tables that the relationship joins is on the line of the relationship. -/
theorem foreignKeys_are_linked_when_tangled :
    let edges := implicitPairs tangledKeys
    let keys := foreignKeyPairs tangledKeys
    edges = [("users", "orders"), ("orders", "orders"), ("items", "users")]
      ∧ ("users", "orders") ∈ edges ∧ ¬Related tangledKeys ("users", "orders")
      ∧ keys.find? (samePair ("users", "orders")) = some ("users", "orders")
      ∧ edges.countP (samePair ("orders", "users")) = 1
      ∧ edges.countP (samePair ("orders", "items")) = 0
      ∧ (∃ line ∈ (compile tangledKeys).toList.splitOn '\n', ∃ link, readLink? line = some link
        ∧ s(link.source, link.target) = s("orders", "items"))
      ∧ (edges.map unordered).Nodup := by
  intro edges keys
  obtain ⟨sound, complete, apart, first, -, -⟩ := foreignKeys_are_linked tangledKeys
  have kept : edges = [("users", "orders"), ("orders", "orders"), ("items", "users")] := by decide
  have member : ("users", "orders") ∈ edges := by
    rw [kept]
    exact .head _
  have related : Related tangledKeys ("orders", "items") := by decide
  have unrelated : ¬Related tangledKeys ("orders", "users") := by decide
  obtain ⟨users, isUsers, toOrders, inUsers, named, references⟩ :
      ∃ table ∈ tangledKeys.tables, ∃ key ∈ table.foreignKeys,
        table.name = "users" ∧ key.referencedTable = "orders" := by decide
  obtain ⟨items, isItems, back, inItems, itemsNamed, backReferences⟩ :
      ∃ table ∈ tangledKeys.tables, ∃ key ∈ table.foreignKeys,
        table.name = "items" ∧ key.referencedTable = "orders" := by decide
  have ofUsers := (complete users isUsers toOrders inUsers).1
  have ofItems := complete items isItems back inItems
  rw [references, named] at ofUsers
  rw [backReferences, itemsNamed] at ofItems
  refine ⟨kept, member, (sound _ member).1, first _ member, ?_, ?_, ofItems.2, apart⟩
  · exact (ofUsers.resolve_left fun joined => unrelated joined.1).2
  · exact (ofItems.1.resolve_right fun apart => apart.1 related).2

end DbSchema.Diagram
