import PullRequestBot.Json.Basic
import PullRequestBot.Number.Notation
import PullRequestBot.Text.Quoted

set_option autoImplicit false

/-! # Decoding JSON into records

A decoder takes a value apart and says what is wrong with it. Records are described by a `Shape`: its
fields in order, which of them must be there, and how each is decoded. A record may be written as an
object, or as an array of its fields in order. The fields of an object are looked at in the order of
their keys, and only then is it noticed that one is missing. -/

namespace PullRequestBot.Json

/-! ## Failures -/

/-- What was found in place of what was expected. -/
inductive Found where
  | null
  | bool (value : Bool)
  | integer (value : Int)
  | float (value : Binary64)
  | string (value : String)
  | sequence
  | map
deriving DecidableEq, Repr

/-- The wording of what was found. -/
def Found.text : Found → String
  | .null => "null"
  | .bool value => s!"boolean `{value}`"
  | .integer value => s!"integer `{value}`"
  | .float value => s!"floating point `{value.scientific}`"
  | .string value => s!"string {Text.quote value}"
  | .sequence => "sequence"
  | .map => "map"

/-- What a value is, for a message about it. -/
def found : Json → Found
  | .null => .null
  | .bool value => .bool value
  | .number (.natural n) => .integer n.toNat
  | .number (.negative n) => .integer n.toInt
  | .number (.float x) => .float x
  | .string value => .string value
  | .array _ => .sequence
  | .object _ => .map

/-- Why a value cannot be decoded. -/
inductive DecodeFailure where
  /-- The value is of another kind than expected. -/
  | invalidType (found : Found) (expected : String)
  /-- The value is of the right kind, but out of range. -/
  | invalidValue (found : Found) (expected : String)
  /-- An array has the wrong number of items. -/
  | invalidLength (length : Nat) (expected : String)
  /-- No choice has that name. -/
  | unknownVariant (name : String) (choices : List String)
  /-- A field is missing. -/
  | missingField (name : String)
  /-- The text of a value is malformed. -/
  | malformed (detail : String)
deriving DecidableEq, Repr

/-- A list of names for a message that offers a choice. -/
def choiceText : List String → String
  | [] => "there are no variants"
  | [a] => s!"expected `{a}`"
  | [a, b] => s!"expected `{a}` or `{b}`"
  | names => "expected one of " ++ ", ".intercalate (names.map fun name => s!"`{name}`")

/-- The wording of a decode failure. -/
def DecodeFailure.message : DecodeFailure → String
  | .invalidType found expected => s!"invalid type: {found.text}, expected {expected}"
  | .invalidValue found expected => s!"invalid value: {found.text}, expected {expected}"
  | .invalidLength length expected => s!"invalid length {length}, expected {expected}"
  | .unknownVariant name choices => s!"unknown variant `{name}`, {choiceText choices}"
  | .missingField name => s!"missing field `{name}`"
  | .malformed detail => detail

/-! ## Simple decoders -/

/-- A decoder of values of a type. -/
abbrev Decoder (α : Type) := Json → Except DecodeFailure α

/-- The failure to find a value of the expected kind. -/
def mismatch {α : Type} (value : Json) (expected : String) : Except DecodeFailure α :=
  .error (.invalidType value.found expected)

/-- A string. -/
def decodeString : Decoder String
  | .string s => .ok s
  | value => mismatch value "a string"

/-- A boolean. -/
def decodeBool : Decoder Bool
  | .bool b => .ok b
  | value => mismatch value "a boolean"

/-- A natural number below 2 ^ 64. -/
def decodeUInt64 : Decoder UInt64
  | .number (.natural n) => .ok n
  | .number (.negative n) => .error (.invalidValue (.integer n.toInt) "u64")
  | value => mismatch value "u64"

/-- A value that may be null. -/
def decodeOptional {α : Type} (decode : Decoder α) : Decoder (Option α)
  | .null => .ok none
  | value => (decode value).map some

/-- An array whose items are all decoded alike. -/
def decodeList {α : Type} (decode : Decoder α) : Decoder (List α)
  | .array items => items.mapM decode
  | value => mismatch value "a sequence"

/-- One of several named choices: a string, or an object with the name as its only key and null as
    its value. `other` takes the names that are not listed, if it is given. -/
def decodeChoice {α : Type} (choices : List (String × α)) (other : Option α := none) : Decoder α :=
  let named (name : String) : Except DecodeFailure α :=
    match choices.lookup name, other with
    | some choice, _ => .ok choice
    | none, some choice => .ok choice
    | none, none => .error (.unknownVariant name (choices.map (·.1)))
  fun
    | .string name => named name
    | .object [(name, content)] => do
      let choice ← named name
      match content with
      | .null => .ok choice
      | value => mismatch value "unit"
    | .object _ => .error (.invalidValue .map "map with a single key")
    | value => mismatch value "string or map"

/-! ## Records -/

/-- A field of a record: its key, whether it must be there, and whether a value fits. -/
structure Field where
  key : String
  isRequired : Bool
  check : Json → Except DecodeFailure Unit

/-- A field whose values are decoded in the given way. -/
def Field.of {α : Type} (key : String) (isRequired : Bool) (decode : Decoder α) : Field :=
  ⟨key, isRequired, fun value => (decode value).map fun _ => ()⟩

/-- A record: its name and its fields in order. -/
structure Shape where
  name : String
  fields : List Field

namespace Shape

/-- How many fields a record has, in words. -/
def sizeText (shape : Shape) : String :=
  let unit := if shape.fields.length = 1 then "element" else "elements"
  s!"struct {shape.name} with {shape.fields.length} {unit}"

/-- Checks a field of an object; keys that are not listed are passed over. -/
def checkField (shape : Shape) (field : String × Json) : Except DecodeFailure Unit :=
  match shape.fields.find? fun known => known.key == field.1 with
  | some known => known.check field.2
  | none => .ok ()

/-- The first field that must be there and is not. -/
def missing? (shape : Shape) (fields : List (String × Json)) : Option Field :=
  shape.fields.find? fun known => known.isRequired && (lookup known.key fields).isNone

/-- The fields of a record, checked. -/
def decode (shape : Shape) : Decoder (List (String × Json))
  | .object fields => do
    fields.forM shape.checkField
    match shape.missing? fields with
    | some field => .error (.missingField field.key)
    | none => .ok fields
  | .array items => do
    (shape.fields.zip items).forM fun (known, item) => known.check item
    let absent := shape.fields.drop items.length
    match absent.findIdx? (·.isRequired) with
    | some i => .error (.invalidLength (items.length + i) shape.sizeText)
    | none =>
      if shape.fields.length < items.length then
        .error (.invalidLength items.length "fewer elements in array")
      else .ok (List.zip (shape.fields.map (·.key)) items)
  | value => mismatch value s!"struct {shape.name}"

end Shape

/-- Decodes a field of checked fields; an absent one has its default. -/
def decodeField {α : Type} (fields : List (String × Json)) (key : String) (decode : Decoder α)
    (default : α) : Except DecodeFailure α :=
  match lookup key fields with
  | some value => decode value
  | none => .ok default

/-- Decodes a field that must be there. -/
def requireField {α : Type} (fields : List (String × Json)) (key : String) (decode : Decoder α) :
    Except DecodeFailure α :=
  match lookup key fields with
  | some value => decode value
  | none => .error (.missingField key)

end PullRequestBot.Json
