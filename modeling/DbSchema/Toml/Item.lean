import DbSchema.Number.Binary64

/-!
# TOML items

The values and tables of a TOML text, and how tables grow while the text is read. A table remembers
how it came about, because that decides what may be added to it later: a table that has a header or
is written inline is complete, one that only headers of its parts imply may still get a header, and
one that dotted keys made may only grow by dotted keys.
-/

namespace DbSchema.Toml

/-- How a table came about. -/
inductive Origin where
  | inline
  | header
  | implied
  | dotted
  deriving DecidableEq, Repr

/-- A number with a point, an exponent or a special name. -/
inductive Real where
  | finite (value : Binary64)
  | infinite (negative : Bool)
  | notANumber
  deriving DecidableEq, Repr

/-- An item. Tables keep their entries in the order of their first mention; `tables` is a list of
tables each of which has a header of its own. Dates and times are told from other values, and
nothing more. -/
inductive Item where
  | text (value : String)
  | integer (value : Int)
  | real (value : Real)
  | boolean (value : Bool)
  | dateTime
  | list (items : List Item)
  | table (origin : Origin) (entries : List (String × Item))
  | tables (all : List (List (String × Item)))
  deriving Repr

/-- The entries of a table. -/
abbrev Entries := List (String × Item)

namespace Entries

/-- Changes the entry with a key, or adds one at the end. -/
def alter (key : String) (change : Option Item → Option Item) : Entries → Option Entries
  | [] => do return [(key, ← change none)]
  | (name, item) :: rest =>
    if name == key then do return (name, ← change (some item)) :: rest
    else do return (name, item) :: (← alter key change rest)

/-- Adds an entry whose key is new. -/
def addNew (key : String) (item : Item) (entries : Entries) : Option Entries :=
  if entries.any fun entry => entry.1 == key then none else some (entries ++ [(key, item)])

/-- Changes the last element of a list. -/
def alterLast {α : Type} (change : α → Option α) : List α → Option (List α)
  | [] => none
  | [last] => do return [← change last]
  | element :: rest => do return element :: (← alterLast change rest)

/-- Changes the table at the end of a path of keys; `change` is given its origin and its entries.
Tables that are missing on the way are made. A list of tables stands for its last one. Dotted keys
do not lead into a table that is complete, and nothing leads into a value. -/
def descend (dotted : Bool) (change : Origin → Entries → Option Entries) :
    (path : List String) → Origin → Entries → Option Entries
  | [], origin, entries => change origin entries
  | key :: path, _, entries =>
    entries.alter key fun
      | none => do
        let origin := if dotted then .dotted else .implied
        return .table origin (← descend dotted change path origin [])
      | some (.table .inline _) => none
      | some (.table origin inner) =>
        if dotted && origin == .header then none
        else do return .table origin (← descend dotted change path origin inner)
      | some (.tables all) => do
        return .tables (← alterLast (descend dotted change path .header) all)
      | some _ => none

end Entries

/-- A key with the keys in front of its dots, and its value. -/
structure Pair where
  path : List String
  key : String
  value : Item

/-- A header: the name of a table with the names of the tables around it. -/
structure Header where
  path : List String
  key : String
  inList : Bool

/-- A header with the pairs under it. -/
structure Section where
  header : Header
  pairs : List Pair

/-- Adds a pair to a table. A dotted key adds only to tables that dotted keys made. -/
def addPair (origin : Origin) (entries : Entries) (pair : Pair) : Option Entries :=
  Entries.descend true
    (fun origin entries =>
      if (origin == .dotted) == pair.path.isEmpty then none
      else entries.addNew pair.key pair.value)
    pair.path origin entries

/-- Adds pairs to a table in order. -/
def addPairs (origin : Origin) (entries : Entries) (pairs : List Pair) : Option Entries :=
  pairs.foldlM (addPair origin) entries

/-- Adds the table of a section. A table that headers of its parts have implied moves to the end
when its own header comes. -/
def addSection (root : Entries) (part : Section) : Option Entries :=
  let key := part.header.key
  Entries.descend false
    (fun _ entries =>
      if part.header.inList then do
        let table ← addPairs .header [] part.pairs
        entries.alter key fun
          | none => some (.tables [table])
          | some (.tables all) => some (.tables (all ++ [table]))
          | some _ => none
      else
        match entries.lookup key with
        | none => do return entries ++ [(key, .table .header (← addPairs .header [] part.pairs))]
        | some (.table .implied inner) => do
          let table ← addPairs .header inner part.pairs
          return entries.filter (fun entry => entry.1 != key) ++ [(key, .table .header table)]
        | some _ => none)
    part.header.path .header root

/-- The table of a whole text: its pairs before any header, then its sections. -/
def rootTable (pairs : List Pair) (sections : List Section) : Option Entries := do
  sections.foldlM addSection (← addPairs .header [] pairs)

end DbSchema.Toml
