import DbSchema.Diagram.Basic

/-!
# Diagrams as text

The text of a diagram: a heading, the entities with a line for each column, and behind an empty line
the links, if there are any.
-/

namespace DbSchema.Diagram

/-- The ends and the line that show a cardinality. -/
def connector : Cardinality → String
  | .oneToOne => "||--||"
  | .oneToMany => "||--o\x7b"
  | .manyToMany => "\x7do--o\x7b"

/-- A marker behind an attribute. -/
def Marker.text : Marker → String
  | primaryKey => " \"PK\""
  | unique => " \"UK\""

/-- The line of an attribute. -/
def Attribute.line (shown : Attribute) : String :=
  "        " ++ shown.type ++ " " ++ shown.name ++ (shown.marker.map Marker.text).getD "" ++ "\n"

/-- The lines of an entity. -/
def Entity.lines (entity : Entity) : String :=
  "    " ++ entity.name ++ " \x7b\n" ++ String.join (entity.attributes.map Attribute.line)
    ++ "    \x7d\n"

/-- The line of a link. -/
def Link.line (link : Link) : String :=
  "    " ++ link.source ++ " " ++ connector link.cardinality ++ " " ++ link.target ++ " : \""
    ++ link.label ++ "\"\n"

/-- The text of a diagram. -/
def text (diagram : Diagram) : String :=
  "erDiagram\n" ++ String.join (diagram.entities.map Entity.lines)
    ++ (if diagram.links.isEmpty then ""
      else "\n" ++ String.join (diagram.links.map Link.line))

/-- The diagram text of a schema. -/
def compile (schema : Schema) : String :=
  (ofSchema schema).text

end DbSchema.Diagram
