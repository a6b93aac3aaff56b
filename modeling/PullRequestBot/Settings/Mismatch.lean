import PullRequestBot.Failure
import PullRequestBot.Number.Notation
import PullRequestBot.Number.Spelled
import PullRequestBot.Settings.Tree
import PullRequestBot.Text.Lowercase
import PullRequestBot.Text.Quoted

set_option autoImplicit false

/-! # Converting raw settings

A raw value is converted to the type of its option. Booleans, numbers and the texts that spell them
stand for one another; tables, arrays and missing values never convert. A `Mismatch` says what is wrong
with a value, where it stands, and where it comes from. -/

namespace PullRequestBot.Settings

/-! ## Mismatches -/

/-- What is wrong with a raw value. -/
structure Mismatch where
  detail : String
  /-- The place of the value, as far as it is known. -/
  place : Option String := none
  /-- The source of the value. -/
  origin : Option String := none
deriving DecidableEq, Repr

namespace Mismatch

/-- The wording of a mismatch. -/
def message (mismatch : Mismatch) : String :=
  let place := match mismatch.place with
    | some place => s!" for key `{place}`"
    | none => ""
  let origin := match mismatch.origin with
    | some origin => s!" in {origin}"
    | none => ""
  mismatch.detail ++ place ++ origin

/-- The mismatch seen from the table that holds the value under a key. -/
def underKey (key : String) (mismatch : Mismatch) : Mismatch :=
  let place := match mismatch.place with
    | none => key
    | some inner => if inner.toList.head? = some '[' then key ++ inner else s!"{key}.{inner}"
  { mismatch with place := some place }

/-- The mismatch seen from the array that holds the value. -/
def atItem (index : Nat) (mismatch : Mismatch) : Mismatch :=
  { mismatch with place := some (s!"[{index}]" ++ mismatch.place.getD "") }

end Mismatch

/-- A conversion of raw values. -/
abbrev Conversion (α : Type) := Tree → Except Mismatch α

/-- What a raw value is called in a message. -/
def Tree.description : Tree → String
  | .leaf .nothing _ => "unit value"
  | .leaf (.boolean value) _ => s!"boolean `{value}`"
  | .leaf (.integer value) _ => s!"64-bit integer `{value}`"
  | .leaf (.float value) _ => s!"floating point `{value.positional}`"
  | .leaf (.text value) _ => s!"string {Text.quote value}"
  | .array _ _ => "sequence"
  | .table _ _ => "map"

/-- Where a raw value comes from. -/
def Tree.origin : Tree → Option String
  | .leaf _ origin => origin
  | .array _ origin => origin
  | .table _ origin => origin

/-- The mismatch of a value that is something else than expected. -/
def wrongType {α : Type} (found expected : String) (origin : Option String) : Except Mismatch α :=
  .error ⟨s!"invalid type: {found}, expected {expected}", none, origin⟩

/-- The mismatch of a raw value that cannot be converted. -/
def unexpected {α : Type} (tree : Tree) (expected : String) : Except Mismatch α :=
  wrongType tree.description expected tree.origin

/-! ## Booleans -/

/-- The texts that spell a boolean besides digits. -/
def spelledBoolean? (lowercase : String) : Option Bool :=
  if ["true", "on", "yes"].contains lowercase then some true
  else if ["false", "off", "no"].contains lowercase then some false
  else none

/-- A boolean: numbers other than zero are true, and texts may spell it in any case. -/
def boolean : Conversion Bool
  | .leaf (.boolean value) _ => .ok value
  | .leaf (.integer value) _ => .ok (value != 0)
  | .leaf (.float value) _ => .ok !value.isZero
  | .leaf (.text value) origin =>
    let lowercase := Text.lowercaseString value
    match spelledBoolean? lowercase with
    | some value => .ok value
    | none =>
      if lowercase = "1" then .ok true
      else if lowercase = "0" then .ok false
      else unexpected (.leaf (.text lowercase) origin) "a boolean"
  | tree => unexpected tree "a boolean"

/-! ## Natural numbers -/

/-- The natural number nearest to a float, within 64 bits. -/
def nearestNatural (value : Binary64) : Nat :=
  if value.isNaN then 0
  else if value.isFinite then min value.roundHalfAway.toNat (Word.bound 64 - 1)
  else if value.isNegative then 0
  else Word.bound 64 - 1

/-- A natural number of 64 bits. -/
def natural : Conversion Nat
  | .leaf (.integer value) origin =>
    if 0 ≤ value then .ok value.toNat
    else unexpected (.leaf (.integer value) origin) "an unsigned 64 bit or less integer"
  | .leaf (.float value) _ => .ok (nearestNatural value)
  | .leaf (.boolean value) _ => .ok value.toNat
  | .leaf (.text value) origin =>
    match spelledBoolean? (Text.lowercaseString value) with
    | some value => .ok value.toNat
    | none =>
      match Spelled.natural? (Word.bound 64) value with
      | some number => .ok number
      | none => unexpected (.leaf (.text value) origin) "an integer"
  | tree => unexpected tree "an integer"

/-- A natural number of fewer bits. -/
def naturalOf (bits : Nat) : Conversion Nat := fun tree => do
  let number ← natural tree
  if number < Word.bound bits then return number
  else wrongType s!"64-bit unsigned integer `{number}`" s!"an unsigned {bits} bit integer" none

/-! ## Texts -/

/-- A text; booleans and numbers are written out. -/
def text : Conversion String
  | .leaf (.text value) _ => .ok value
  | .leaf (.boolean value) _ => .ok (toString value)
  | .leaf (.integer value) _ => .ok (toString value)
  | .leaf (.float value) _ => .ok value.positional
  | tree => unexpected tree "a string"

/-- A value that may be missing. -/
def optional {α : Type} (convert : Conversion α) : Conversion (Option α)
  | .leaf .nothing _ => .ok none
  | tree => (convert tree).map some

end PullRequestBot.Settings
