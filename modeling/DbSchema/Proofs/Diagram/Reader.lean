import DbSchema.Diagram.Text
import DbSchema.Proofs.Diagram.Naming
import Mathlib.Data.List.Basic

/-!
# A reader of diagrams

`Diagram.read` reads the text of a diagram line by line, without knowing the schema that it shows.
What a line means depends only on where it stands: among the entities, in the block of one of them,
or behind the empty line that links follow. `read_text` says that every diagram whose names and
labels cannot be taken for anything else is given back.
-/

namespace DbSchema.Diagram

/-- What stands in front of the first space, and what stands behind it. -/
def cutField? (text : List Char) : Option (List Char × List Char) :=
  match text.dropWhile (· != ' ') with
  | [] => none
  | _ :: rest => some (text.takeWhile (· != ' '), rest)

/-- What stands behind some spaces at the start of a line. -/
def indented? (depth : Nat) (line : List Char) : Option (List Char) :=
  line.dropPrefix? (List.replicate depth ' ')

/-- Reads what may stand behind the name of an attribute. -/
def readMarker? (text : List Char) : Option (Option Marker) :=
  if text = [] then some none
  else if text = " \"PK\"".toList then some (some .primaryKey)
  else if text = " \"UK\"".toList then some (some .unique)
  else none

/-- Reads the line of an attribute: its type, its name and perhaps a marker. -/
def readAttribute? (line : List Char) : Option Attribute := do
  let fields ← indented? 8 line
  let (type, behind) ← cutField? fields
  let marker ← readMarker? (behind.dropWhile (· != ' '))
  return ⟨.ofList type, .ofList (behind.takeWhile (· != ' ')), marker⟩

/-- Reads the line that opens the block of an entity: its name and a brace. -/
def readOpening? (line : List Char) : Option String := do
  let fields ← indented? 4 line
  let (name, behind) ← cutField? fields
  if behind = ['\x7b'] then some (.ofList name) else none

/-- Reads a text between quotes, up to the end of the line. -/
def readCaption? : List Char → Option String
  | [] => none
  | first :: behind =>
    if first = '"' && behind.dropWhile (· != '"') = ['"'] then
      some (.ofList (behind.takeWhile (· != '"')))
    else none

/-- Reads the line of a link: the source, the connector, the target and, behind a colon, the
label. -/
def readLink? (line : List Char) : Option Link := do
  let fields ← indented? 4 line
  let (source, behind) ← cutField? fields
  let (ends, behind) ← cutField? behind
  let cardinality ← Cardinality.all.find? fun cardinality => (connector cardinality).toList = ends
  let (target, behind) ← cutField? behind
  let (colon, behind) ← cutField? behind
  let label ← readCaption? behind
  if colon = [':'] then some ⟨.ofList source, cardinality, .ofList target, label⟩ else none

/-- Where a line stands. -/
inductive Place where
  | entities
  | block (entity : Entity)
  | links
  deriving DecidableEq, Repr

/-- What was read so far, and where the next line stands. The entity whose block is open belongs to
the place. -/
structure Draft where
  entities : List Entity
  links : List Link
  place : Place
  deriving DecidableEq, Repr

/-- Reads one more line. -/
def Draft.readLine? (draft : Draft) (line : List Char) : Option Draft :=
  match draft.place with
  | .entities =>
    if line = [] then some { draft with place := .links }
    else (readOpening? line).map fun name => { draft with place := .block ⟨name, []⟩ }
  | .block entity =>
    if line = "    \x7d".toList then
      some { draft with entities := draft.entities ++ [entity], place := .entities }
    else
      (readAttribute? line).map fun shown =>
        { draft with place := .block { entity with attributes := entity.attributes ++ [shown] } }
  | .links => (readLink? line).map fun link => { draft with links := draft.links ++ [link] }

/-- What was read, if no block is open. -/
def Draft.diagram? (draft : Draft) : Option Diagram :=
  match draft.place with
  | .block _ => none
  | _ => some ⟨draft.entities, draft.links⟩

/-- Reads the lines behind the heading. -/
def readLines? (lines : List (List Char)) : Option Diagram :=
  (lines.foldlM Draft.readLine? ⟨[], [], .entities⟩).bind Draft.diagram?

/-- Reads a diagram: a heading, and lines that each end with a line feed. -/
def read (text : String) : Option Diagram :=
  match text.toList.splitOn '\n' with
  | heading :: stretches =>
    if heading = "erDiagram".toList && stretches.getLast? = some [] then
      readLines? stretches.dropLast
    else none
  | [] => none

section Fields

/-- A field is cut off at the space behind it. -/
theorem cutField?_append {field : List Char} (rest : List Char) (noSpace : ' ' ∉ field) :
    cutField? (field ++ ' ' :: rest) = some (field, rest) := by
  have other (character : Char) (member : character ∈ field) : (character != ' ') = true :=
    bne_iff_ne.2 fun same => noSpace (same ▸ member)
  rw [cutField?, List.dropWhile_append_of_pos other, List.takeWhile_append_of_pos other]
  simp

/-- What stands behind the right number of spaces is found. -/
theorem indented?_append (depth : Nat) (rest : List Char) :
    indented? depth (List.replicate depth ' ' ++ rest) = some rest :=
  List.dropPrefix?_append_of_beq rest (by simp)

/-- A caption is read up to its closing quote. -/
theorem readCaption?_quoted {label : String} (noQuote : '"' ∉ label.toList) :
    readCaption? ('"' :: (label.toList ++ ['"'])) = some label := by
  have other (character : Char) (member : character ∈ label.toList) :
      (character != '"') = true :=
    bne_iff_ne.2 fun same => noQuote (same ▸ member)
  rw [readCaption?, List.dropWhile_append_of_pos other, List.takeWhile_append_of_pos other]
  simp

/-- A connector belongs to its cardinality only. -/
theorem find?_connector (cardinality : Cardinality) :
    (Cardinality.all.find? fun known => (connector known).toList = (connector cardinality).toList) =
      some cardinality := by
  cases cardinality <;> decide

/-- A marker is read back. -/
theorem readMarker?_text (marker : Option Marker) :
    readMarker? ((marker.map Marker.text).getD "").toList = some marker := by
  rcases marker with _ | (_ | _) <;> rfl

end Fields

section Lines

/-- The line of an attribute. -/
def attributeLine (shown : Attribute) : List Char :=
  List.replicate 8 ' ' ++ (shown.type.toList ++ ' ' :: (shown.name.toList
    ++ ((shown.marker.map Marker.text).getD "").toList))

/-- The lines of an entity. -/
def entityLines (entity : Entity) : List (List Char) :=
  (List.replicate 4 ' ' ++ (entity.name.toList ++ ' ' :: ['\x7b']))
    :: (entity.attributes.map attributeLine ++ ["    \x7d".toList])

/-- The line of a link. -/
def linkLine (link : Link) : List Char :=
  List.replicate 4 ' ' ++ (link.source.toList ++ ' ' :: ((connector link.cardinality).toList
    ++ ' ' :: (link.target.toList ++ ' ' :: ([':'] ++ ' ' :: '"' :: (link.label.toList ++ ['"'])))))

/-- The lines of a diagram behind its heading. -/
def bodyLines (diagram : Diagram) : List (List Char) :=
  diagram.entities.flatMap entityLines
    ++ (if diagram.links.isEmpty then [] else [] :: diagram.links.map linkLine)

/-- Lines with their line feeds. -/
def ended (lines : List (List Char)) : List Char :=
  lines.flatMap (· ++ ['\n'])

/-- Lines are found again at their line feeds. -/
theorem splitOn_ended {lines : List (List Char)} (oneLine : ∀ line ∈ lines, '\n' ∉ line) :
    (ended lines).splitOn '\n' = lines ++ [[]] := by
  simpa [ended] using Text.splitOn_flatMap_append [] oneLine

theorem toList_attributeLine (shown : Attribute) :
    shown.line.toList = attributeLine shown ++ ['\n'] := by
  simp [Attribute.line, attributeLine]

theorem toList_entityLines (entity : Entity) :
    entity.lines.toList = ended (entityLines entity) := by
  simp [Entity.lines, entityLines, ended, String.toList_join, toList_attributeLine,
    List.flatMap_map]

theorem toList_linkLine (link : Link) : link.line.toList = linkLine link ++ ['\n'] := by
  unfold Link.line linkLine
  simp

/-- The text of a diagram is its heading and its lines. -/
theorem toList_text (diagram : Diagram) :
    diagram.text.toList = ended ("erDiagram".toList :: bodyLines diagram) := by
  have entities : diagram.entities.flatMap (fun entity => entity.lines.toList) =
      ended (diagram.entities.flatMap entityLines) := by
    simp [ended, toList_entityLines, List.flatMap_assoc]
  have links : diagram.links.flatMap (fun link => link.line.toList) =
      ended (diagram.links.map linkLine) := by
    simp [ended, toList_linkLine, List.flatMap_map]
  unfold text bodyLines
  split <;>
    simp [ended, String.toList_join, List.flatMap_map, entities, links]

end Lines

section Readable

/-- Whether nothing that a diagram shows can be taken for something else. -/
structure IsReadable (diagram : Diagram) : Prop where
  entities : ∀ entity ∈ diagram.entities, IsName entity.name
  attributes : ∀ entity ∈ diagram.entities, ∀ shown ∈ entity.attributes,
    IsName shown.type ∧ IsName shown.name
  links : ∀ link ∈ diagram.links, IsName link.source ∧ IsName link.target ∧ IsCaption link.label

/-- A character that no identifier has is in no name. -/
theorem IsName.not_mem {text : String} (named : IsName text) {character : Char}
    (other : isIdentifierChar character = false) : character ∉ text.toList := fun member =>
  Bool.eq_false_iff.1 other (named.characters character member)

/-- A character that is neither a space nor in any identifier is in no caption. -/
theorem IsCaption.not_mem {text : String} (caption : IsCaption text) {character : Char}
    (other : isIdentifierChar character = false) (noSpace : character ≠ ' ') :
    character ∉ text.toList := fun member =>
  (caption.characters character member).elim (Bool.eq_false_iff.1 other) noSpace

variable {shown : Attribute} {entity : Entity} {link : Link}

/-- The line of an attribute is read back. -/
theorem readAttribute?_line (typed : IsName shown.type) (named : IsName shown.name) :
    readAttribute? (attributeLine shown) = some shown := by
  have type := cutField?_append
    (shown.name.toList ++ ((shown.marker.map Marker.text).getD "").toList)
    (typed.not_mem (rfl : isIdentifierChar ' ' = false))
  have other (character : Char) (member : character ∈ shown.name.toList) :
      (character != ' ') = true :=
    bne_iff_ne.2 fun same => named.not_mem (rfl : isIdentifierChar ' ' = false) (same ▸ member)
  have marked : (((shown.marker.map Marker.text).getD "").toList).dropWhile (· != ' ') =
      ((shown.marker.map Marker.text).getD "").toList := by
    rcases shown.marker with _ | (_ | _) <;> rfl
  have unmarked : (((shown.marker.map Marker.text).getD "").toList).takeWhile (· != ' ') = [] := by
    rcases shown.marker with _ | (_ | _) <;> rfl
  simp only [readAttribute?, attributeLine, indented?_append, type,
    List.dropWhile_append_of_pos other, List.takeWhile_append_of_pos other, marked, unmarked,
    readMarker?_text, Option.bind_eq_bind, Option.bind_some, List.append_nil,
    String.ofList_toList]
  rfl

/-- The line that opens the block of an entity is read back. -/
theorem readOpening?_line (named : IsName entity.name) :
    readOpening? (List.replicate 4 ' ' ++ (entity.name.toList ++ ' ' :: ['\x7b'])) =
      some entity.name := by
  have name := cutField?_append ['\x7b'] (named.not_mem (rfl : isIdentifierChar ' ' = false))
  simp only [readOpening?, indented?_append, name, Option.bind_eq_bind, Option.bind_some, if_true,
    String.ofList_toList]

/-- The line of a link is read back. -/
theorem readLink?_line (source : IsName link.source) (target : IsName link.target)
    (caption : IsCaption link.label) : readLink? (linkLine link) = some link := by
  have noSpace {text : String} (named : IsName text) : ' ' ∉ text.toList :=
    named.not_mem (rfl : isIdentifierChar ' ' = false)
  have ends : ' ' ∉ (connector link.cardinality).toList := by
    cases link.cardinality <;> decide
  have colon : ' ' ∉ [':'] := by decide
  have quoted := readCaption?_quoted
    (caption.not_mem (rfl : isIdentifierChar '"' = false) (by decide))
  simp only [readLink?, linkLine, indented?_append, cutField?_append _ (noSpace source),
    cutField?_append _ ends, cutField?_append _ (noSpace target), cutField?_append _ colon,
    find?_connector, quoted, Option.bind_eq_bind, Option.bind_some, if_true, String.ofList_toList]

/-- No line of a diagram has a line feed in it. -/
theorem oneLine_of_mem_bodyLines {diagram : Diagram} (readable : diagram.IsReadable)
    {line : List Char} (member : line ∈ bodyLines diagram) : '\n' ∉ line := by
  have feed : isIdentifierChar '\n' = false := rfl
  rcases List.mem_append.1 member with member | member
  · obtain ⟨entity, inDiagram, inEntity⟩ := List.mem_flatMap.1 member
    rcases List.mem_cons.1 inEntity with rfl | inEntity
    · simp [(readable.entities entity inDiagram).not_mem feed]
    · rcases List.mem_append.1 inEntity with inAttributes | closing
      · obtain ⟨shown, isShown, rfl⟩ := List.mem_map.1 inAttributes
        obtain ⟨typed, named⟩ := readable.attributes entity inDiagram shown isShown
        have marked : '\n' ∉ ((shown.marker.map Marker.text).getD "").toList := by
          rcases shown.marker with _ | (_ | _) <;> decide
        simp [attributeLine, typed.not_mem feed, named.not_mem feed, marked]
      · obtain rfl := List.mem_singleton.1 closing
        decide
  · split at member
    case isTrue => simp at member
    case isFalse =>
      rcases List.mem_cons.1 member with rfl | inLinks
      · simp
      · obtain ⟨link, inDiagram, rfl⟩ := List.mem_map.1 inLinks
        obtain ⟨source, target, caption⟩ := readable.links link inDiagram
        have ends : '\n' ∉ (connector link.cardinality).toList := by
          cases link.cardinality <;> decide
        simp [linkLine, source.not_mem feed, target.not_mem feed, ends,
          caption.not_mem feed (by decide)]

end Readable

section Reading

variable {entities : List Entity} {links : List Link}

/-- Reading the lines of attributes adds them to the open block. -/
theorem readLines_attributes {entity : Entity} {attributes : List Attribute}
    (readable : ∀ shown ∈ attributes, IsName shown.type ∧ IsName shown.name) :
    (attributes.map attributeLine).foldlM Draft.readLine? ⟨entities, links, .block entity⟩ =
      some ⟨entities, links,
        .block { entity with attributes := entity.attributes ++ attributes }⟩ := by
  -- The open block holds what was read before, so it grows from step to step.
  induction attributes generalizing entity with
  | nil => simp
  | cons shown attributes inductionHypothesis =>
      obtain ⟨typed, named⟩ := readable shown (by simp)
      have noEnd : attributeLine shown ≠ "    \x7d".toList := by
        simp [attributeLine, List.replicate_succ]
      have step : Draft.readLine? ⟨entities, links, .block entity⟩ (attributeLine shown) =
          some ⟨entities, links,
            .block { entity with attributes := entity.attributes ++ [shown] }⟩ := by
        simp only [Draft.readLine?, if_neg noEnd, readAttribute?_line typed named, Option.map_some]
      rw [List.map_cons, List.foldlM_cons, step, Option.bind_eq_bind, Option.bind_some,
        inductionHypothesis fun other member => readable other (by simp [member])]
      simp

/-- Reading the lines of an entity adds it. -/
theorem readLines_entity {entity : Entity} (named : IsName entity.name)
    (readable : ∀ shown ∈ entity.attributes, IsName shown.type ∧ IsName shown.name) :
    (entityLines entity).foldlM Draft.readLine? ⟨entities, links, .entities⟩ =
      some ⟨entities ++ [entity], links, .entities⟩ := by
  have opening : Draft.readLine? ⟨entities, links, .entities⟩
      (List.replicate 4 ' ' ++ (entity.name.toList ++ ' ' :: ['\x7b'])) =
      some ⟨entities, links, .block ⟨entity.name, []⟩⟩ := by
    rw [Draft.readLine?]
    simp only [readOpening?_line named]
    simp
  have closing : Draft.readLine? ⟨entities, links, .block entity⟩ "    \x7d".toList =
      some ⟨entities ++ [entity], links, .entities⟩ := rfl
  rw [entityLines, List.foldlM_cons, opening, Option.bind_eq_bind, Option.bind_some,
    List.foldlM_append, readLines_attributes readable, List.nil_append, Option.bind_eq_bind,
    Option.bind_some, List.foldlM_cons, closing]
  rfl

/-- Reading the lines of entities adds them. -/
theorem readLines_entities {more : List Entity} (named : ∀ entity ∈ more, IsName entity.name)
    (readable : ∀ entity ∈ more, ∀ shown ∈ entity.attributes,
      IsName shown.type ∧ IsName shown.name) :
    (more.flatMap entityLines).foldlM Draft.readLine? ⟨entities, links, .entities⟩ =
      some ⟨entities ++ more, links, .entities⟩ := by
  induction more generalizing entities with
  | nil => simp
  | cons entity more inductionHypothesis =>
      rw [List.flatMap_cons, List.foldlM_append,
        readLines_entity (named entity (by simp)) (readable entity (by simp)),
        Option.bind_eq_bind, Option.bind_some,
        inductionHypothesis (fun other member => named other (by simp [member]))
          (fun other member => readable other (by simp [member]))]
      simp

/-- Reading the lines of links adds them. -/
theorem readLines_links {more : List Link}
    (readable : ∀ link ∈ more, IsName link.source ∧ IsName link.target ∧ IsCaption link.label) :
    (more.map linkLine).foldlM Draft.readLine? ⟨entities, links, .links⟩ =
      some ⟨entities, links ++ more, .links⟩ := by
  induction more generalizing links with
  | nil => simp
  | cons link more inductionHypothesis =>
      obtain ⟨source, target, caption⟩ := readable link (by simp)
      have step : Draft.readLine? ⟨entities, links, .links⟩ (linkLine link) =
          some ⟨entities, links ++ [link], .links⟩ := by
        simp [Draft.readLine?, readLink?_line source target caption]
      rw [List.map_cons, List.foldlM_cons, step, Option.bind_eq_bind, Option.bind_some,
        inductionHypothesis fun other member => readable other (by simp [member])]
      simp

/-- The lines of a readable diagram are read back. -/
theorem readLines?_bodyLines {diagram : Diagram} (readable : diagram.IsReadable) :
    readLines? (bodyLines diagram) = some diagram := by
  have begun : (diagram.entities.flatMap entityLines).foldlM Draft.readLine? ⟨[], [], .entities⟩ =
      some ⟨[] ++ diagram.entities, [], .entities⟩ :=
    readLines_entities readable.entities readable.attributes
  rw [readLines?, bodyLines, List.foldlM_append, begun, Option.bind_eq_bind, Option.bind_some,
    List.nil_append]
  split
  case isTrue none =>
    rw [List.foldlM_nil, ← List.isEmpty_iff.1 none]
    rfl
  case isFalse =>
    have emptyLine : Draft.readLine? ⟨diagram.entities, [], .entities⟩ [] =
        some ⟨diagram.entities, [], .links⟩ := rfl
    rw [List.foldlM_cons, emptyLine, Option.bind_eq_bind, Option.bind_some,
      readLines_links readable.links]
    rfl

/-- The text of a readable diagram is read back. -/
theorem read_text {diagram : Diagram} (readable : diagram.IsReadable) :
    read diagram.text = some diagram := by
  have oneLine : ∀ line ∈ "erDiagram".toList :: bodyLines diagram, '\n' ∉ line := by
    intro line member
    rcases List.mem_cons.1 member with rfl | member
    · decide
    · exact oneLine_of_mem_bodyLines readable member
  rw [read, toList_text, splitOn_ended oneLine]
  simp [readLines?_bodyLines readable]

end Reading

end DbSchema.Diagram
