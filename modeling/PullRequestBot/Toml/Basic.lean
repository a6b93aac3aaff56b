import PullRequestBot.Number.Binary64

set_option autoImplicit false

/-! # TOML documents

A document is a table of values by key. While it is read, a `Node` tree remembers how each table came
to be, for that decides what may still be added to it: a table is opened once at most, and a value, an
array or a table written in braces is closed for good. -/

namespace PullRequestBot

/-- A TOML value. Dates and times are kept as their normal texts. -/
inductive Toml where
  | boolean (value : Bool)
  | integer (value : Int)
  | float (value : Binary64)
  | text (value : String)
  | array (items : List Toml)
  | table (entries : List (String × Toml))
deriving Repr

namespace Toml

/-! ## Trees under construction -/

/-- How a table came to be. -/
inductive Origin where
  /-- As part of the way to another table's header. -/
  | implied
  /-- By its own header. -/
  | header
  /-- By a dotted key. -/
  | dotted
deriving DecidableEq, Repr

/-- What stands under a key while a document is read. -/
inductive Node where
  /-- A closed value. -/
  | value (content : Toml)
  | table (origin : Origin) (entries : List (String × Node))
  /-- An array of tables, the latest first. -/
  | tables (items : List (List (String × Node)))

/-- Keys with what stands under them. -/
abbrev Entries := List (String × Node)

/-- What stands under a key. -/
def find? (key : String) (entries : Entries) : Option Node :=
  (entries.find? fun entry => entry.1 == key).map (·.2)

/-- Puts a node in place of the one that stands under the key. -/
def replace (key : String) (node : Node) (entries : Entries) : Entries :=
  entries.map fun entry => if entry.1 == key then (key, node) else entry

/-- Adds a node under a new key. -/
def extend (key : String) (node : Node) (entries : Entries) : Entries :=
  entries ++ [(key, node)]

/-! ## Additions -/

/-- Puts a value under a dotted key. The key must be new, and the tables on the way must not have
    been opened by a header. -/
def putDotted (value : Toml) : List String → Entries → Option Entries
  | [], _ => none
  | [key], entries =>
    match find? key entries with
    | none => some (extend key (.value value) entries)
    | some _ => none
  | key :: rest, entries =>
    match find? key entries with
    | none => (putDotted value rest []).map fun inner => extend key (.table .dotted inner) entries
    | some (.table origin inner) =>
      if origin = .header then none
      else (putDotted value rest inner).map fun inner => replace key (.table origin inner) entries
    | some _ => none

/-- Changes the table at the end of a way that exists; an array of tables leads into its latest. -/
def within (change : Entries → Option Entries) : List String → Entries → Option Entries
  | [], entries => change entries
  | key :: rest, entries =>
    match find? key entries with
    | some (.table origin inner) =>
      (within change rest inner).map fun inner => replace key (.table origin inner) entries
    | some (.tables (latest :: older)) =>
      (within change rest latest).map fun latest => replace key (.tables (latest :: older)) entries
    | _ => none

/-- Walks to the last key of a header, making the tables on the way, and puts there what `last` makes
    of the node found. -/
def openAt (last : Option Node → Option Node) : List String → Entries → Option Entries
  | [], _ => none
  | [key], entries =>
    match find? key entries with
    | none => (last none).map fun node => extend key node entries
    | some node => (last (some node)).map fun node => replace key node entries
  | key :: rest, entries =>
    match find? key entries with
    | none => (openAt last rest []).map fun inner => extend key (.table .implied inner) entries
    | some (.table origin inner) =>
      (openAt last rest inner).map fun inner => replace key (.table origin inner) entries
    | some (.tables (latest :: older)) =>
      (openAt last rest latest).map fun latest => replace key (.tables (latest :: older)) entries
    | some _ => none

/-- Opens a table by its header: a new one, or one that was only implied. -/
def openTable : List String → Entries → Option Entries :=
  openAt fun
    | none => some (.table .header [])
    | some (.table .implied inner) => some (.table .header inner)
    | some _ => none

/-- Opens the next table of an array by its header. -/
def openItem : List String → Entries → Option Entries :=
  openAt fun
    | none => some (.tables [[]])
    | some (.tables items) => some (.tables ([] :: items))
    | some _ => none

/-! ## Finished documents -/

mutual

/-- The value of a node. -/
def ofNode : Node → Toml
  | .value content => content
  | .table _ entries => .table (ofEntries entries)
  | .tables items => .array (ofTables items [])

/-- The values of entries. -/
def ofEntries : List (String × Node) → List (String × Toml)
  | [] => []
  | (key, node) :: rest => (key, ofNode node) :: ofEntries rest

/-- The tables of an array in the order in which they were opened. -/
def ofTables : List (List (String × Node)) → List Toml → List Toml
  | [], done => done
  | entries :: older, done => ofTables older (.table (ofEntries entries) :: done)

end

end Toml

end PullRequestBot
