import PullRequestBot.Proofs.Json.Numeral

set_option autoImplicit false

/-! # The grammar of JSON

`Spells depth text value` says that a text is written by the rules of JSON, nested at most that many levels
deep, and that it is the value which is written. The rules do not say in which order a text is looked at, or
where one looks ahead; what the reader makes of a text is compared with them elsewhere. -/

namespace PullRequestBot.Json

/-! ## Strings -/

/-- The character that a mark stands for when a backslash is in front of it. -/
def shortEscape? : Char → Option Char
  | '"' => some '"'
  | '\\' => some '\\'
  | '/' => some '/'
  | 'b' => some '\x08'
  | 'f' => some '\x0c'
  | 'n' => some '\n'
  | 'r' => some '\r'
  | 't' => some '\t'
  | _ => none

/-- Four digits to base 16, and the number that they spell. -/
def SpellsUnit (digits : List Char) (unit : Nat) : Prop :=
  digits.length = 4 ∧ Digit.number? 16 digits = some unit

/-- How a character is spelt inside a string: by itself, by a mark, or by its number to base 16, which takes
    two units if it has more than four digits. -/
inductive SpellsChar : List Char → Char → Prop where
  | itself {c : Char} (quote : c ≠ '"') (slash : c ≠ '\\') (visible : ¬ c.toNat < 0x20) :
      SpellsChar [c] c
  | mark {mark c : Char} (known : shortEscape? mark = some c) : SpellsChar ['\\', mark] c
  | unit {digits : List Char} {unit : Nat} (spelt : SpellsUnit digits unit)
      (alone : unit < 0xD800 ∨ 0xDFFF < unit) : SpellsChar ('\\' :: 'u' :: digits) (Char.ofNat unit)
  | pair {digits digits' : List Char} {high low : Nat} (spelt : SpellsUnit digits high)
      (spelt' : SpellsUnit digits' low) (isHigh : 0xD800 ≤ high ∧ high ≤ 0xDBFF)
      (isLow : 0xDC00 ≤ low ∧ low ≤ 0xDFFF) :
      SpellsChar ('\\' :: 'u' :: (digits ++ '\\' :: 'u' :: digits'))
        (Char.ofNat ((high - 0xD800) * 1024 + (low - 0xDC00) + 0x10000))

/-- How characters are spelt inside a string, one after the other. -/
inductive SpellsChars : List Char → List Char → Prop where
  | nil : SpellsChars [] []
  | cons {text texts : List Char} {c : Char} {cs : List Char} (first : SpellsChar text c)
      (rest : SpellsChars texts cs) : SpellsChars (text ++ texts) (c :: cs)

/-! ## Values -/

/-- Blanks only. -/
def Gaps (cs : List Char) : Prop :=
  ∀ c ∈ cs, isGap c = true

/-- A field as it is written, up to the blanks around its parts. The last part, the value, is spelt as a
    value. -/
structure WrittenField where
  key : String
  value : Json
  before : List Char
  keyText : List Char
  between : List Char
  valueText : List Char
  gaps_before : Gaps before
  spells_key : SpellsChars keyText key.toList
  gaps_between : Gaps between

namespace WrittenField

/-- What is written of a field. -/
def text (field : WrittenField) : List Char :=
  field.before ++ '"' :: (field.keyText ++ '"' :: (field.between ++ ':' :: field.valueText))

/-- The field that is written. -/
def field (field : WrittenField) : String × Json :=
  (field.key, field.value)

end WrittenField

/-- The texts of things, with commas in between. -/
def joined {α : Type} (text : α → List Char) (things : List α) : List Char :=
  [','].intercalate (things.map text)

/-- The text of a value, by the rules of the grammar, with at most `depth` arrays and objects around each of
    its parts. -/
inductive Spells : Nat → List Char → Json → Prop where
  | padded {depth : Nat} {before text after : List Char} {value : Json} (gapsBefore : Gaps before)
      (gapsAfter : Gaps after) (spelt : Spells depth text value) :
      Spells depth (before ++ text ++ after) value
  | null (depth : Nat) : Spells depth ['n', 'u', 'l', 'l'] .null
  | true (depth : Nat) : Spells depth ['t', 'r', 'u', 'e'] (.bool true)
  | false (depth : Nat) : Spells depth ['f', 'a', 'l', 's', 'e'] (.bool false)
  | number (depth : Nat) {numeral : Numeral} {value : Json} (valued : numeral.value? = some value) :
      Spells depth numeral.chars value
  | string (depth : Nat) {text : List Char} {s : String} (spelt : SpellsChars text s.toList) :
      Spells depth ('"' :: (text ++ ['"'])) (.string s)
  | emptyArray (depth : Nat) {gaps : List Char} (isGaps : Gaps gaps) :
      Spells (depth + 1) ('[' :: (gaps ++ [']'])) (.array [])
  | array {depth : Nat} {items : List (List Char × Json)} (ne : items ≠ [])
      (spelt : ∀ item ∈ items, Spells depth item.1 item.2) :
      Spells (depth + 1) ('[' :: (joined Prod.fst items ++ [']'])) (.array (items.map Prod.snd))
  | emptyObject (depth : Nat) {gaps : List Char} (isGaps : Gaps gaps) :
      Spells (depth + 1) ('\x7b' :: (gaps ++ ['\x7d'])) (.object [])
  | object {depth : Nat} {fields : List WrittenField} (ne : fields ≠ [])
      (spelt : ∀ field ∈ fields, Spells depth field.valueText field.value) :
      Spells (depth + 1) ('\x7b' :: (joined WrittenField.text fields ++ ['\x7d']))
        (ofFields (fields.map WrittenField.field))

end PullRequestBot.Json
