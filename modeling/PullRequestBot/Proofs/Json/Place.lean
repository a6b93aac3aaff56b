import PullRequestBot.Proofs.Json.Record

set_option autoImplicit false

/-! # Places in JSON values

Steps lead from a value to a part of it: a key into an object, an index into an array. `at?` follows them,
and `changeAt` changes what stands at their end. -/

namespace PullRequestBot.Json

/-! ## Steps -/

/-- A step from a value to one that it holds. -/
inductive Step where
  | key (name : String)
  | index (i : Nat)
deriving DecidableEq, Repr

/-- The part of a value that steps lead to, if there is one. -/
def at? : List Step → Json → Option Json
  | [], value => some value
  | .key name :: rest, .object fields => (lookup name fields).bind (at? rest)
  | .index i :: rest, .array items => items[i]?.bind (at? rest)
  | _ :: _, _ => none

/-- Whether a value can hold others. -/
def isContainer : Json → Bool
  | .array _ | .object _ => true
  | _ => false

/-! ## Changes -/

/-- The value without a field, if it is an object. -/
def removeField (target : Json) (key : String) : Json :=
  match target with
  | .object fields => .object (fields.filter fun field => field.1 ≠ key)
  | other => other

/-- Fields with the value under a key changed. -/
def changeField (change : Json → Json) (key : String) (fields : List (String × Json)) :
    List (String × Json) :=
  fields.map fun field => if field.1 = key then (field.1, change field.2) else field

/-- The value with the part that steps lead to changed; without such a part it stays as it is. -/
def changeAt (change : Json → Json) : List Step → Json → Json
  | [], value => change value
  | .key name :: rest, .object fields => .object (changeField (changeAt change rest) name fields)
  | .index i :: rest, .array items => .array (items.modify i (changeAt change rest))
  | _ :: _, value => value

end PullRequestBot.Json
