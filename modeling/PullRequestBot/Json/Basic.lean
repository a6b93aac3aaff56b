import PullRequestBot.Number.Binary64
import PullRequestBot.Number.Word

set_option autoImplicit false

/-! # JSON values

A value is null, a boolean, a number, a string, an array or an object. Numbers are of three kinds,
as they are read: a natural number below 2 ^ 64, a negative integer of 64 bits, or a floating point
number. An object is the list of its fields in ascending order of the keys, each key once; `insert`
keeps that order, and `get?` looks a key up. -/

namespace PullRequestBot

/-! ## Numbers -/

/-- A JSON number, by the kind it is read as. -/
inductive Json.Number where
  /-- A natural number below 2 ^ 64. -/
  | natural (n : UInt64)
  /-- An integer below zero. -/
  | negative (n : Int64)
  /-- Any other number. -/
  | float (x : Binary64)
deriving DecidableEq, Repr

/-! ## Values -/

/-- A JSON value. -/
inductive Json where
  | null
  | bool (value : Bool)
  | number (value : Json.Number)
  | string (value : String)
  | array (items : List Json)
  | object (fields : List (String × Json))
deriving Repr, Inhabited

namespace Json

/-- The value of the first field with the given key. -/
def lookup (key : String) (fields : List (String × Json)) : Option Json :=
  (fields.find? fun field => field.1 == key).map (·.2)

/-- Puts a field into ascending fields: a field with the same key is replaced. -/
def insertField (key : String) (value : Json) : List (String × Json) → List (String × Json)
  | [] => [(key, value)]
  | (k, v) :: rest =>
    if key < k then (key, value) :: (k, v) :: rest
    else if key = k then (key, value) :: rest
    else (k, v) :: insertField key value rest

/-- The object with the given fields; of several with one key the last counts. -/
def ofFields (fields : List (String × Json)) : Json :=
  .object (fields.foldl (fun done field => insertField field.1 field.2 done) [])

/-- The field of an object; none in every other value. -/
def get? (key : String) : Json → Option Json
  | .object fields => lookup key fields
  | _ => none

/-- The value at the end of a path of object keys. -/
def getPath? : List String → Json → Option Json
  | [], value => some value
  | key :: rest, value => (value.get? key).bind (getPath? rest)

/-- The same value with a field set, if it is an object. -/
def setField (target : Json) (key : String) (value : Json) : Json :=
  match target with
  | .object fields => .object (insertField key value fields)
  | other => other

/-! ## Views -/

/-- The text of a string. -/
def string? : Json → Option String
  | .string s => some s
  | _ => none

/-- A natural number below 2 ^ 64. -/
def natural? : Json → Option UInt64
  | .number (.natural n) => some n
  | _ => none

/-- An integer of 64 bits with sign. -/
def integer? : Json → Option Int
  | .number (.natural n) => if Word.holds 64 n.toNat then some n.toNat else none
  | .number (.negative n) => some n.toInt
  | _ => none

/-- The number of a natural below 2 ^ 64. -/
def ofNat (n : Nat) : Json :=
  .number (.natural (UInt64.ofNat n))

/-- The number of an integer of 64 bits. -/
def ofInt (n : Int) : Json :=
  if 0 ≤ n then ofNat n.toNat else .number (.negative (Int64.ofInt n))

/-- A string, or null for none. -/
def ofOption : Option String → Json
  | some s => .string s
  | none => .null

end Json

end PullRequestBot
