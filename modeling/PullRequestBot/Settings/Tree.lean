import PullRequestBot.Number.Binary64
import PullRequestBot.Toml.Basic

set_option autoImplicit false

/-! # Trees of raw settings

Settings come from several sources. What a source holds is a tree of tables and arrays with scalars at
its leaves; every value may know the source it comes from. Sources are merged into one tree by setting
their values one after the other: tables are merged key by key, everything else is replaced, so a later
source wins. `get?_put` says what a table holds after one key was set. -/

namespace PullRequestBot.Settings

/-! ## Values -/

/-- A value without parts. -/
inductive Scalar where
  | nothing
  | boolean (value : Bool)
  | integer (value : Int)
  | float (value : Binary64)
  | text (value : String)
deriving DecidableEq, Repr

/-- A tree of raw settings; `origin` names the source of a value. -/
inductive Tree where
  | leaf (value : Scalar) (origin : Option String)
  | array (items : List Tree) (origin : Option String)
  | table (entries : List (String × Tree)) (origin : Option String)
deriving Repr

namespace Tree

/-- The value that stands where nothing was set. -/
def nothing : Tree := .leaf .nothing none

/-- The table without entries. -/
def empty : Tree := .table [] none

mutual

/-- The tree of a TOML value from a source. -/
def ofToml (origin : Option String) : Toml → Tree
  | .boolean value => .leaf (.boolean value) origin
  | .integer value => .leaf (.integer value) origin
  | .float value => .leaf (.float value) origin
  | .text value => .leaf (.text value) origin
  | .array items => .array (ofTomlItems origin items) origin
  | .table entries => .table (ofTomlEntries origin entries) origin

/-- The trees of the items of an array. -/
def ofTomlItems (origin : Option String) : List Toml → List Tree
  | [] => []
  | item :: rest => ofToml origin item :: ofTomlItems origin rest

/-- The trees of the entries of a table. -/
def ofTomlEntries (origin : Option String) : List (String × Toml) → List (String × Tree)
  | [] => []
  | (key, value) :: rest => (key, ofToml origin value) :: ofTomlEntries origin rest

end

/-! ## Tables -/

/-- The entries of a table; no other value has any. -/
def entries : Tree → List (String × Tree)
  | .table entries _ => entries
  | _ => []

/-- What stands under a key of a table. -/
def get? (key : String) (tree : Tree) : Option Tree :=
  tree.entries.lookup key

/-- Puts a value under a key among others. -/
def putEntry (key : String) (value : Tree) : List (String × Tree) → List (String × Tree)
  | [] => [(key, value)]
  | (name, old) :: rest =>
    if key = name then (key, value) :: rest else (name, old) :: putEntry key value rest

/-- Puts a value under a key of a table. A value of another kind gives way to a new table. -/
def put (tree : Tree) (key : String) (value : Tree) : Tree :=
  match tree with
  | .table entries origin => .table (putEntry key value entries) origin
  | _ => .table [(key, value)] none

theorem lookup_putEntry (key name : String) (value : Tree) (entries : List (String × Tree)) :
    (putEntry key value entries).lookup name =
      if name = key then some value else entries.lookup name := by
  induction entries with
  | nil =>
    by_cases h : name = key
    · simp [putEntry, h]
    · simp [putEntry, List.lookup_cons, h, beq_eq_false_iff_ne.2 h]
  | cons entry rest ih =>
    obtain ⟨first, old⟩ := entry
    by_cases hk : key = first
    · subst hk
      by_cases h : name = key
      · simp [putEntry, h]
      · simp [putEntry, List.lookup_cons, h, beq_eq_false_iff_ne.2 h]
    · by_cases h : name = key
      · subst h
        simp [putEntry, hk, List.lookup_cons, ih, beq_eq_false_iff_ne.2 hk]
      · simp [putEntry, hk, List.lookup_cons, ih, h]

/-- A table holds a value under the key it was put under, and under other keys what it held. -/
theorem get?_put (tree : Tree) (key name : String) (value : Tree) :
    (tree.put key value).get? name = if name = key then some value else tree.get? name := by
  cases tree with
  | table entries origin => exact lookup_putEntry key name value entries
  | leaf _ _ => exact lookup_putEntry key name value []
  | array _ _ => exact lookup_putEntry key name value []

/-! ## Merging -/

/-- The value as a table: itself, or the empty table in place of a value of another kind. -/
def asTable : Tree → Tree
  | .table entries origin => .table entries origin
  | _ => empty

mutual

/-- What stands at a place after a value was set there: a table is merged into the old one, every
    other value replaces the old one. -/
def merge : Tree → Tree → Tree
  | .table entries _, old => mergeEntries entries old.asTable
  | .leaf value origin, _ => .leaf value origin
  | .array items origin, _ => .array items origin

/-- Merges entries into a table, one after the other. -/
def mergeEntries : List (String × Tree) → Tree → Tree
  | [], old => old
  | (key, value) :: rest, old =>
    mergeEntries rest (old.put key (merge value ((old.get? key).getD nothing)))

end

/-! ## Places -/

/-- One step on the way to a place: to a key of a table, or to an item of an array, counted from its
    end if the number is negative. -/
inductive Step where
  | key (name : String)
  | index (number : Int)
deriving DecidableEq, Repr

/-- The items of an array; no other value has any. -/
def items : Tree → List Tree
  | .array items _ => items
  | _ => []

/-- The source of an array; a new array in place of another value has none. -/
def arrayOrigin : Tree → Option String
  | .array _ origin => origin
  | _ => none

/-- Makes room for the item of a number, and says where it is: items that were never set are
    nothing. -/
def makeRoom (number : Int) (items : List Tree) : List Tree × Nat :=
  let position := if number < 0 then items.length + number else number
  if position < 0 then (List.replicate (-position).toNat nothing ++ items, 0)
  else (items ++ List.replicate (position.toNat + 1 - items.length) nothing, position.toNat)

/-- Sets a value at the end of a way, making the tables and arrays on it. -/
def setAt (value : Tree) : List Step → Tree → Tree
  | [], old => merge value old
  | .key name :: rest, old =>
    old.put name (setAt value rest ((old.get? name).getD nothing))
  | .index number :: rest, old =>
    let (items, position) := makeRoom number old.items
    .array (items.set position (setAt value rest (items.getD position nothing))) old.arrayOrigin

end Tree

end PullRequestBot.Settings
