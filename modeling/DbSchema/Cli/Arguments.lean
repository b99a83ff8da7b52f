import DbSchema.Schema.Vocabulary

/-!
# Command lines

What the arguments of the program ask for. Arguments are taken in order: options start with dashes,
an option takes its value from the same argument or from the next one, and behind two dashes nothing
is an option. The program's own options may stand before the command or behind it.
-/

namespace DbSchema.Cli

/-- What the program is asked to do with a schema file or for a new schema. -/
inductive Command where
  | sql (schema : String) (dialect : Option Dialect) (timestamp : Bool) (output : Option String)
  | diagram (schema : String) (output : Option String)
  | store (schema : String) (directory : Option String) (formats : List ExportFormat)
  | create (name : String) (dialect : Dialect)
  | types (dialects : List Dialect)
  deriving DecidableEq, Repr

/-- What a command line asks for: a command with the settings file that it names, the version, help,
or nothing that makes sense. -/
inductive Request where
  | run (settingsPath : Option String) (command : Command)
  | version
  | help
  | misuse
  deriving DecidableEq, Repr

/-- An option: its long name, its letter if it has one, and which values it accepts if it takes
one. -/
structure OptionSpec where
  long : String
  letter : Option Char
  accepts : Option (String → Bool)

/-- An option that was given, by its long name, with its value if it takes one. -/
structure Given where
  long : String
  value : String
  deriving DecidableEq, Repr

/-- The options and other arguments that have been taken. -/
structure Taken where
  options : List Given
  others : List String
  deriving DecidableEq, Repr

/-- Why taking arguments stopped early. -/
inductive Stop where
  | version
  | help
  | misuse
  deriving DecidableEq, Repr

/-- What the options of one level are: those of the program or of a command, whether the version can
be asked for, which other arguments are accepted, and whether the first of these ends the level. -/
structure Level where
  options : List OptionSpec
  hasVersion : Bool
  accepts : String → Bool
  most : Nat
  endsAtFirst : Bool

/-- Whether an argument starts like an option. A dash alone does not. -/
def isOption (argument : String) : Bool :=
  argument.startsWith "-" && argument != "-"

/-- Takes an option; every option may be given once. -/
def giveOption (taken : Taken) (spec : OptionSpec) (value : String) : Except Stop Taken :=
  if taken.options.any fun given => given.long == spec.long then .error .misuse
  else if (spec.accepts.map fun accepts => accepts value).getD true then
    .ok { taken with options := taken.options ++ [⟨spec.long, value⟩] }
  else .error .misuse

/-- What comes after an argument: an option that waits for its value, or nothing in particular. -/
structure After where
  taken : Taken
  waiting : Option OptionSpec

/-- Takes an option by its long name, with the value behind the equals sign if there is one. -/
def takeLong (level : Level) (taken : Taken) (name : String) (value : Option String) :
    Except Stop After :=
  match level.options.find? fun spec => spec.long == name with
  | some spec =>
    match spec.accepts, value with
    | none, none => do return ⟨← giveOption taken spec "", none⟩
    | none, some _ => .error .misuse
    | some _, none =>
      if taken.options.any fun given => given.long == spec.long then .error .misuse
      else .ok ⟨taken, some spec⟩
    | some _, some value => do return ⟨← giveOption taken spec value, none⟩
  | none =>
    if value.isSome then .error .misuse
    else if name == "help" then .error .help
    else if name == "version" && level.hasVersion then .error .version
    else .error .misuse

/-- Takes options by their letters. Behind the letter of an option with a value comes the value,
which an equals sign may precede. -/
def takeLetters (level : Level) (taken : Taken) : List Char → Except Stop After
  | [] => .ok ⟨taken, none⟩
  | letter :: rest =>
    match level.options.find? fun spec => spec.letter == some letter with
    | some spec =>
      match spec.accepts with
      | none => do takeLetters level (← giveOption taken spec "") rest
      | some _ =>
        match rest with
        | [] =>
          if taken.options.any fun given => given.long == spec.long then .error .misuse
          else .ok ⟨taken, some spec⟩
        | '=' :: value => do return ⟨← giveOption taken spec (.ofList value), none⟩
        | value => do return ⟨← giveOption taken spec (.ofList value), none⟩
    | none =>
      if letter = 'h' then .error .help
      else if letter = 'V' && level.hasVersion then .error .version
      else .error .misuse

/-- Takes an argument that is no option. -/
def takeOther (level : Level) (taken : Taken) (argument : String) : Except Stop Taken :=
  if taken.others.length < level.most && level.accepts argument then
    .ok { taken with others := taken.others ++ [argument] }
  else .error .misuse

/-- Splits an argument at its first equals sign. -/
def splitValue (argument : List Char) : String × Option String :=
  match argument.dropWhile (· != '=') with
  | [] => (.ofList argument, none)
  | _ :: value => (.ofList (argument.takeWhile (· != '=')), some (.ofList value))

/-- Takes the arguments of a level in order; the arguments behind the one that ends the level are
left. Such an argument cannot stand behind two dashes. -/
def take (level : Level) : Taken → List String → Except Stop (Taken × List String)
  | taken, [] => .ok (taken, [])
  | taken, argument :: rest =>
    if argument == "--" then
      if level.endsAtFirst then .error .misuse
      else do return (← rest.foldlM (takeOther level) taken, [])
    else if isOption argument then
      let letters := argument.toList.drop 1
      let step :=
        match letters with
        | '-' :: long => takeLong level taken (splitValue long).1 (splitValue long).2
        | letters => takeLetters level taken letters
      match step with
      | .error stop => .error stop
      | .ok ⟨taken, none⟩ => take level taken rest
      | .ok ⟨taken, some spec⟩ =>
        match rest with
        | [] => .error .misuse
        | value :: rest =>
          if isOption value then .error .misuse
          else
            match giveOption taken spec value with
            | .error stop => .error stop
            | .ok taken => take level taken rest
    else
      match takeOther level taken argument with
      | .error stop => .error stop
      | .ok taken => if level.endsAtFirst then .ok (taken, rest) else take level taken rest

/-- The value that was given to an option. -/
def Taken.value? (taken : Taken) (long : String) : Option String :=
  (taken.options.find? fun given => given.long == long).map Given.value

/-- Paths are not empty. -/
def isPath (text : String) : Bool :=
  text != ""

/-- Whether a text names a dialect. -/
def isDialect (text : String) : Bool :=
  (Dialect.ofText? text).isOk

/-- The formats that a word stands for. -/
def formatsOf : List (String × List ExportFormat) :=
  [("sql", [.sql]), ("diagram", [.diagram]), ("json", [.json]), ("all", ExportFormat.all)]

/-- The options of the program itself. -/
def programOptions : List OptionSpec :=
  [⟨"verbose", some 'v', none⟩, ⟨"config", none, some isPath⟩]

/-- The option for a dialect. -/
def dialectOption : OptionSpec :=
  ⟨"dialect", some 'd', some isDialect⟩

/-- The option for an output file. -/
def outputOption : OptionSpec :=
  ⟨"output", some 'o', some isPath⟩

/-- The options of a command and what else it accepts, by its name. -/
def commandLevel? : String → Option Level
  | "sql" =>
    some ⟨programOptions ++ [dialectOption, ⟨"no-timestamp", none, none⟩, outputOption], false,
      isPath, 1, false⟩
  | "diagram" => some ⟨programOptions ++ [outputOption], false, isPath, 1, false⟩
  | "export" =>
    some ⟨programOptions ++ [⟨"dir", none, some isPath⟩,
      ⟨"format", some 'f', some fun word => (formatsOf.lookup word).isSome⟩], false, isPath, 1,
      false⟩
  | "new" => some ⟨programOptions ++ [dialectOption], false, fun _ => true, 1, false⟩
  | "types" => some ⟨programOptions ++ [dialectOption], false, fun _ => true, 0, false⟩
  | _ => none

/-- The options of the program in front of the command, which ends them. -/
def programLevel : Level :=
  ⟨programOptions, true, fun name => name == "help" || (commandLevel? name).isSome, 1, true⟩

/-- The dialect that was given. -/
def Taken.dialect? (taken : Taken) : Option Dialect :=
  (taken.value? "dialect").bind fun text => (Dialect.ofText? text).toOption

/-- The command that a name and the arguments behind it ask for. -/
def commandOf (name : String) (taken : Taken) : Option Command :=
  match name, taken.others with
  | "sql", [schema] =>
    some (.sql schema taken.dialect? (taken.value? "no-timestamp").isNone (taken.value? "output"))
  | "diagram", [schema] => some (.diagram schema (taken.value? "output"))
  | "export", [schema] =>
    let formats := (taken.value? "format").bind fun word => formatsOf.lookup word
    some (.store schema (taken.value? "dir") (formats.getD ExportFormat.all))
  | "new", [title] => some (.create title (taken.dialect?.getD .postgresql))
  | "types", [] => some (.types ((taken.dialect?.map fun dialect => [dialect]).getD Dialect.all))
  | _, _ => none

/-- The request that taking arguments ended with. -/
def Stop.request : Stop → Request
  | version => .version
  | help => .help
  | misuse => .misuse

/-- The settings path of a command line, an option behind the command before one in front of it, and
any option before the one of the environment, which must not be empty where it counts. -/
def settingsPath (environment : Option String) (program command : Taken) :
    Except Stop (Option String) :=
  let own := command.value? "config"
  let given := program.value? "config"
  if environment == some "" && (own.isNone || given.isNone) then .error .misuse
  else .ok (own.or (given.or environment))

/-- The names in a request for help have to be those of commands. -/
def helpRequest : List String → Request
  | [] => .help
  | [name] => if name == "help" || (commandLevel? name).isSome then .help else .misuse
  | _ => .misuse

/-- What arguments ask for; the environment may name a settings file. -/
def requestOf (environment : Option String) (arguments : List String) : Request :=
  match take programLevel ⟨[], []⟩ arguments with
  | .error stop => stop.request
  | .ok (program, rest) =>
    match program.others with
    | [name] =>
      match commandLevel? name with
      | none => helpRequest rest
      | some level =>
        match take level ⟨[], []⟩ rest with
        | .error stop => stop.request
        | .ok (taken, _) =>
          match commandOf name taken, settingsPath environment program taken with
          | some command, .ok path => .run path command
          | _, _ => .misuse
    | _ => .misuse

end DbSchema.Cli
