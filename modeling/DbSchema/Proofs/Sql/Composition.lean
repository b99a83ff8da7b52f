import DbSchema.Proofs.Sql.TimeLine

/-!
# How a script is composed

A script as its parts follow each other: the header and the sections up to the foreign keys, the
section of the junction tables, and what stands behind. Each part is written where the line in front
of it has not ended, so that a section brings its own line ends and an empty section is no text:
`toList_compile_eq_parts`. The relationships of a schema enter the second part alone, and of them
only the many-to-many ones that have names for a junction table.
-/

namespace DbSchema

/-- The many-to-many relationships with names for a junction table, in order. -/
def Schema.joined (schema : Schema) : List Relationship :=
  schema.relationships.filter fun relationship =>
    relationship.cardinality == .manyToMany && relationship.junction.isSome

namespace Sql

/-- The text of a section behind a line that has not ended: an empty line, the title and the
entries. An empty section has none. -/
def Section.textBehindLine (quote : Char) (part : Section) : List Char :=
  if part.entries.isEmpty then []
  else
    ("\n\n-- " ++ part.title ++ "\n").toList
      ++ Piece.textOf quote
        (Piece.separated (if part.spaced then "\n\n" else "\n") (part.entries.map entryPieces))

/-- The section of the junction tables. -/
def junctionSection (dialect : Dialect) (schema : Schema) : Section :=
  ⟨"Junction tables", true, (createJunctions dialect schema).map fun statement => [statement]⟩

/-- The section of the routines. -/
def routineSection (dialect : Dialect) (schema : Schema) : Section :=
  ⟨"Stored procedures", true,
    (schema.routines.map (createRoutine dialect)).map fun statement => [statement]⟩

/-- The text of a script up to its foreign keys: the header, and the sections in front of that of
the junction tables. -/
def textInFront (options : Options) (time : Timestamp) (schema : Schema) : List Char :=
  let dialect := options.dialectFor schema
  ['\n'].intercalate ((scriptOf options time schema).header.map commentText)
    ++ ((sectionsOf dialect schema).take 5).flatMap (Section.textBehindLine dialect.quoteMark)

/-- The text of the junction tables of a script. -/
def junctionText (dialect : Dialect) (schema : Schema) : List Char :=
  (junctionSection dialect schema).textBehindLine dialect.quoteMark

/-- The text of a script behind its junction tables: the routines, and the end of the last line. -/
def textBehind (dialect : Dialect) (schema : Schema) : List Char :=
  (routineSection dialect schema).textBehindLine dialect.quoteMark ++ ['\n']

section Lines

variable {quote : Char}

/-- Lines that are ended each are lines with their ends between them, and the end of the last. -/
theorem flatMap_feed {lines : List (List Char)} (nonempty : lines ≠ []) :
    lines.flatMap (· ++ ['\n']) = ['\n'].intercalate lines ++ ['\n'] := by
  induction lines with
  | nil => exact absurd rfl nonempty
  | cons line lines inductionHypothesis =>
      cases lines with
      | nil => simp
      | cons next lines =>
          rw [List.flatMap_cons, inductionHypothesis (List.cons_ne_nil _ _),
            List.intercalate_cons_cons, List.append_assoc, List.append_assoc, List.append_assoc]

/-- A section that ends the line in front is one that ends its own. -/
theorem feed_section (part : Section) :
    '\n' :: Piece.textOf quote part.pieces = part.textBehindLine quote ++ ['\n'] := by
  unfold Section.pieces Section.textBehindLine
  split
  case isTrue => rfl
  case isFalse => simp [Piece.textOf, Piece.text]

/-- So it is with sections in a row. -/
theorem feed_sections (parts : List Section) :
    '\n' :: Piece.textOf quote (parts.flatMap Section.pieces) =
      parts.flatMap (Section.textBehindLine quote) ++ ['\n'] := by
  induction parts with
  | nil => rfl
  | cons part parts inductionHypothesis =>
      rw [List.flatMap_cons, textOf_append, List.flatMap_cons, ← List.cons_append, feed_section,
        List.append_assoc, List.singleton_append, inductionHypothesis, List.append_assoc]

end Lines

section Parts

variable (options : Options) (time : Timestamp) (dialect : Dialect) (schema : Schema)

/-- The sections of a schema are those up to the foreign keys, the junction tables and the
routines. -/
theorem sectionsOf_eq_parts :
    sectionsOf dialect schema =
      (sectionsOf dialect schema).take 5
        ++ [junctionSection dialect schema, routineSection dialect schema] := rfl

/-- A script is the text up to its foreign keys, that of its junction tables, and what follows. -/
theorem toList_compile_eq_parts :
    (compile options time schema).toList =
      textInFront options time schema ++ junctionText (options.dialectFor schema) schema
        ++ textBehind (options.dialectFor schema) schema := by
  have header : (scriptOf options time schema).header.map commentText ≠ [] := by
    simp [scriptOf, headerLines]
  calc (compile options time schema).toList
    _ = ((scriptOf options time schema).header.map commentText).flatMap (· ++ ['\n'])
        ++ Piece.textOf (options.dialectFor schema).quoteMark
          ((sectionsOf (options.dialectFor schema) schema).flatMap Section.pieces) := by
      rw [compile, Script.text, textIn, String.toList_ofList, Script.pieces, textOf_append,
        textOf_commentPieces]
      rfl
    _ = ['\n'].intercalate ((scriptOf options time schema).header.map commentText)
        ++ (sectionsOf (options.dialectFor schema) schema).flatMap
          (Section.textBehindLine (options.dialectFor schema).quoteMark) ++ ['\n'] := by
      rw [flatMap_feed header, List.append_assoc, List.singleton_append, feed_sections,
        List.append_assoc]
    _ = _ := by
      rw [sectionsOf_eq_parts]
      simp [textInFront, junctionText, textBehind]

end Parts

section Junctions

variable {dialect : Dialect} {schema : Schema}

/-- Other relationships have no junction table. -/
theorem createJunctions_eq :
    createJunctions dialect schema = schema.joined.filterMap (createJunction? dialect schema) := by
  unfold createJunctions Schema.joined
  rw [List.filterMap_filter]
  refine List.filterMap_congr fun relationship _ => ?_
  split
  case isTrue => rfl
  case isFalse apart =>
    refine Option.eq_none_iff_forall_ne_some.2 fun statement created => apart ?_
    obtain ⟨joined, junction, named, -⟩ := createJunction?_eq_some_iff.1 created
    simp [joined, named]

/-- The section of the junction tables is there exactly when a relationship is joined. -/
theorem junctionText_eq_nil_iff : junctionText dialect schema = [] ↔ schema.joined = [] := by
  constructor
  · intro none
    refine List.eq_nil_iff_forall_not_mem.2 fun relationship member => ?_
    obtain ⟨inSchema, kind⟩ := List.mem_filter.1 member
    obtain ⟨joined, named⟩ := Bool.and_eq_true_iff.1 kind
    obtain ⟨junction, named⟩ := Option.isSome_iff_exists.1 named
    have created : junctionStatement dialect schema relationship junction ∈
        createJunctions dialect schema :=
      mem_createJunctions.2 ⟨relationship, inSchema, by simpa using joined, junction, named, rfl⟩
    have nonempty := List.ne_nil_of_mem created
    simp [junctionText, junctionSection, Section.textBehindLine, nonempty] at none
  · intro unjoined
    simp [junctionText, junctionSection, Section.textBehindLine, createJunctions_eq, unjoined]

end Junctions

end Sql

end DbSchema
