import DbSchema.Sql.Statement
import DbSchema.Text.Lines

/-!
# Routines in SQL

A routine becomes a function in one dialect and a procedure in the other. The body of a function
stands between tags that do not occur in it.
-/

namespace DbSchema.Sql

/-- The lines of a text as comments, without the dashes. Blanks at the end of a line are dropped,
and with them the blank in front of an empty line. -/
def commentLines (text : String) : List String :=
  (Text.lines text).map fun line => .ofList (Text.trimEnd (' ' :: line.toList))

/-- The comment lines of a routine, without the dashes. -/
def routineComment (routine : Routine) : List String :=
  (routine.comment.map commentLines).getD []

/-- A body without the line ends at its end. -/
def bodyText (body : String) : String :=
  .ofList (Text.dropTrailing (fun character => character = '\n' || character = '\r') body.toList)

/-- The tags that are tried, in order. -/
def tagCandidate : Nat → String
  | 0 => "$body$"
  | index + 1 => "$body" ++ .ofList (naturalText (index + 1)) ++ "$"

/-- A tag that does not occur in the body: two dollar signs if possible, else the first candidate
that does not occur. Each position of the body starts at most one candidate, so that one candidate
more than the body is long always suffices. -/
def bodyTag (body : String) : String :=
  if Text.occursIn "$$" body then
    let candidates := (List.range (body.length + 1)).map tagCandidate
    (candidates.find? fun tag => !Text.occursIn tag body).getD "$$"
  else "$$"

/-- The language of a routine that names none. -/
def defaultLanguage : String := "plpgsql"

/-- The language of a routine: the one it names, without blanks around it, unless that is blank. -/
def languageOf (routine : Routine) : String :=
  ((routine.language.map Text.trim).filter fun language => language != "").getD defaultLanguage

/-- The words for what a routine returns. -/
def returnWords (dialect : Dialect) : ReturnType → String
  | .void => "VOID"
  | .table => "TABLE"
  | .scalar type => dialect.routineType type

/-- A parameter of a function. Passing a value in is not spelled out, and a default is kept. -/
def functionParameter (dialect : Dialect) (parameter : Parameter) : ParameterClause where
  direction := if parameter.direction = .input then none else some parameter.direction
  name := parameter.name
  type := dialect.routineType parameter.type
  default := parameter.default.map (defaultPiece dialect)

/-- A parameter of a procedure. Its direction is always spelled out, and it has no default. -/
def procedureParameter (dialect : Dialect) (parameter : Parameter) : ParameterClause where
  direction := some parameter.direction
  name := parameter.name
  type := dialect.routineType parameter.type
  default := none

/-- The statement that creates a routine. -/
def createRoutine (dialect : Dialect) (routine : Routine) : Statement :=
  let body := bodyText routine.body
  match dialect with
  | .postgresql =>
    .createFunction (routineComment routine) routine.name
      (routine.parameters.map (functionParameter dialect))
      (returnWords dialect (routine.returnType.getD .void)) (languageOf routine) (bodyTag body) body
  | .mysql =>
    .createProcedure (routineComment routine) routine.name
      (routine.parameters.map (procedureParameter dialect)) body

end DbSchema.Sql
