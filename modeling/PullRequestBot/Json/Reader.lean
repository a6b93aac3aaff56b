import PullRequestBot.Json.Basic
import PullRequestBot.Number.Digit

set_option autoImplicit false

/-! # Reading JSON

`Json.read` accepts the texts of the JSON grammar whose arrays and objects are nested no deeper than
127 levels and whose numbers do not overflow. Integers that fit keep their value; every other number
is read as a floating point number: the digits that fit into 64 bits are rounded once, and then
scaled by powers of ten. Every function here answers `none` on a text outside the grammar, and the
rest of the input otherwise. -/

namespace PullRequestBot.Json

/-! ## Blanks and digits -/

/-- The blanks allowed between tokens. -/
def isGap (c : Char) : Bool :=
  c = ' ' || c = '\n' || c = '\t' || c = '\r'

/-- Drops blanks. -/
def skipGaps (cs : List Char) : List Char :=
  cs.dropWhile isGap

/-- The value of a decimal digit. -/
def digitValue (c : Char) : Nat :=
  c.toNat - '0'.toNat

/-! ## Numbers -/

/-- Reads digits into a significand while it stays below its bound: the significand, how many digits
    were added, and the rest, which starts with the first digit that did not fit or with no digit. -/
def readSignificand (significand count : Nat) : List Char → Nat × Nat × List Char
  | [] => (significand, count, [])
  | c :: rest =>
    if c.isDigit then
      let next := significand * 10 + digitValue c
      if next < Word.bound 64 then readSignificand next (count + 1) rest
      else (significand, count, c :: rest)
    else (significand, count, c :: rest)

/-- Divides by 10 ^ 308 until the exponent is at least -308, or the number is zero. -/
def scaleUp : Nat → Binary64 → Int → Binary64 × Int
  | 0, x, _ => (Binary64.zero x.isNegative, 0)
  | fuel + 1, x, exponent =>
    if x.isZero then (x, 0)
    else if -308 ≤ exponent then (x, exponent)
    else scaleUp fuel (x.div (Binary64.ofDecimal false 1 308)) (exponent + 308)

/-- The floating point number of a significand and a power of ten: the significand is rounded, then
    multiplied or divided by the rounded power. Overflow is an error. Four divisions bring every
    significand to zero. -/
def floatOf (negative : Bool) (significand : Nat) (exponent : Int) : Option Json :=
  let x := Binary64.ofDecimal negative significand 0
  if x.isZero then some (.number (.float x))
  else if 308 < exponent then none
  else
    let (y, e) := scaleUp 4 x exponent
    let power := Binary64.ofDecimal false 1 e.natAbs
    let result := if 0 ≤ e then y.mul power else y.div power
    if result.isFinite then some (.number (.float result)) else none

/-- Reads the exponent of a number after its `e`. -/
def readExponent (negative : Bool) (significand : Nat) (exponent : Int) (cs : List Char) :
    Option (Json × List Char) :=
  let (minus, digits) := Digit.splitSign cs
  let written := digits.takeWhile Char.isDigit
  if written.isEmpty then none
  else
    let size : Int := written.foldl (fun n c => n * 10 + digitValue c) 0
    let total := if minus then exponent - size else exponent + size
    (floatOf negative significand total).map fun n => (n, digits.dropWhile Char.isDigit)

/-- Reads what may follow the digits of a number that is not an integer. -/
def readFloatEnd (negative : Bool) (significand : Nat) (exponent : Int) (cs : List Char) :
    Option (Json × List Char) :=
  match cs with
  | 'e' :: rest | 'E' :: rest => readExponent negative significand exponent rest
  | _ => (floatOf negative significand exponent).map fun n => (n, cs)

/-- Reads the fraction of a number after its point. Digits that do not fit are passed over. -/
def readFraction (negative : Bool) (significand : Nat) (exponent : Int) (cs : List Char) :
    Option (Json × List Char) :=
  let (fuller, count, rest) := readSignificand significand 0 cs
  let after := rest.dropWhile Char.isDigit
  if count = 0 ∧ after.length = cs.length then none
  else readFloatEnd negative fuller (exponent - count) after

/-- The integer of a sign and a significand below 2 ^ 64. -/
def integerOf (negative : Bool) (significand : Nat) : Json :=
  if negative then
    if significand = 0 ∨ Word.bound 63 < significand then
      .number (.float (Binary64.ofDecimal true significand 0))
    else .number (.negative (Int64.ofInt (-significand)))
  else ofNat significand

/-- Reads a number after its sign. -/
def readNumber (negative : Bool) (cs : List Char) : Option (Json × List Char) :=
  let start :=
    match cs with
    | '0' :: rest =>
      match rest with
      | c :: _ => if c.isDigit then none else some (0, 0, rest)
      | [] => some (0, 0, rest)
    | c :: _ => if c.isDigit then some (readSignificand 0 0 cs) else none
    | [] => none
  start.bind fun (significand, _, rest) =>
    -- Digits of the integer part that do not fit count as powers of ten.
    let dropped := (rest.takeWhile Char.isDigit).length
    match rest.dropWhile Char.isDigit with
    | '.' :: after => readFraction negative significand dropped after
    | 'e' :: after | 'E' :: after => readExponent negative significand dropped after
    | after =>
      if dropped = 0 then some (integerOf negative significand, after)
      else (floatOf negative significand dropped).map fun n => (n, after)

/-! ## Strings -/

/-- Reads four digits to base 16. -/
def readFourHex : List Char → Option (Nat × List Char)
  | a :: b :: c :: d :: rest => do
    let a ← Digit.value? 16 a
    let b ← Digit.value? 16 b
    let c ← Digit.value? 16 c
    let d ← Digit.value? 16 d
    some (((a * 16 + b) * 16 + c) * 16 + d, rest)
  | _ => none

/-- Reads the number of an escaped character after `\u`; a pair of surrogates is one character. -/
def readEscapedNumber (cs : List Char) : Option (Char × List Char) := do
  let (unit, rest) ← readFourHex cs
  if 0xD800 ≤ unit ∧ unit ≤ 0xDBFF then
    match rest with
    | '\\' :: 'u' :: tail => do
      let (low, after) ← readFourHex tail
      if 0xDC00 ≤ low ∧ low ≤ 0xDFFF then
        some (Char.ofNat ((unit - 0xD800) * 1024 + (low - 0xDC00) + 0x10000), after)
      else none
    | _ => none
  else if 0xDC00 ≤ unit ∧ unit ≤ 0xDFFF then none
  else some (Char.ofNat unit, rest)

/-- Reads the character after a backslash. -/
def readEscaped : List Char → Option (Char × List Char)
  | '"' :: rest => some ('"', rest)
  | '\\' :: rest => some ('\\', rest)
  | '/' :: rest => some ('/', rest)
  | 'b' :: rest => some ('\x08', rest)
  | 'f' :: rest => some ('\x0c', rest)
  | 'n' :: rest => some ('\n', rest)
  | 'r' :: rest => some ('\r', rest)
  | 't' :: rest => some ('\t', rest)
  | 'u' :: rest => readEscapedNumber rest
  | _ => none

/-- Reads the rest of a string, whose characters so far are `done`, latest first. -/
def readStringFrom : Nat → List Char → List Char → Option (String × List Char)
  | 0, _, _ => none
  | fuel + 1, done, cs =>
    match cs with
    | [] => none
    | '"' :: rest => some (String.ofList done.reverse, rest)
    | '\\' :: rest => do
      let (c, after) ← readEscaped rest
      readStringFrom fuel (c :: done) after
    | c :: rest => if c.toNat < 0x20 then none else readStringFrom fuel (c :: done) rest

/-- Reads a string after its opening quote; every step takes a character. -/
def readString (cs : List Char) : Option (String × List Char) :=
  readStringFrom (cs.length + 1) [] cs

/-! ## Values -/

/-- Reads the given word. -/
def readWord (word : List Char) (value : Json) (cs : List Char) : Option (Json × List Char) :=
  if word.isPrefixOf cs then some (value, cs.drop word.length) else none

mutual

/-- Reads a value with `depth` levels of nesting left. -/
def readValue : Nat → Nat → List Char → Option (Json × List Char)
  | 0, _, _ => none
  | fuel + 1, depth, cs =>
    match skipGaps cs with
    | [] => none
    | '"' :: rest => (readString rest).map fun (s, after) => (.string s, after)
    | '[' :: rest =>
      if depth ≤ 1 then none
      else
        match skipGaps rest with
        | ']' :: after => some (.array [], after)
        | inner => readItems fuel (depth - 1) [] inner
    | '\x7b' :: rest =>
      if depth ≤ 1 then none
      else
        match skipGaps rest with
        | '\x7d' :: after => some (.object [], after)
        | inner => readFields fuel (depth - 1) [] inner
    | '-' :: rest => readNumber true rest
    | 'n' :: rest => readWord "ull".toList .null rest
    | 't' :: rest => readWord "rue".toList (.bool true) rest
    | 'f' :: rest => readWord "alse".toList (.bool false) rest
    | other => readNumber false other

/-- Reads the items of an array up to its end; `done` holds the earlier ones, latest first. -/
def readItems : Nat → Nat → List Json → List Char → Option (Json × List Char)
  | 0, _, _, _ => none
  | fuel + 1, depth, done, cs => do
    let (item, rest) ← readValue fuel depth cs
    match skipGaps rest with
    | ',' :: after => readItems fuel depth (item :: done) after
    | ']' :: after => some (.array (item :: done).reverse, after)
    | _ => none

/-- Reads the fields of an object up to its end; of several with one key the last counts. -/
def readFields : Nat → Nat → List (String × Json) → List Char → Option (Json × List Char)
  | 0, _, _, _ => none
  | fuel + 1, depth, done, cs =>
    match skipGaps cs with
    | '"' :: inner => do
      let (key, afterKey) ← readString inner
      match skipGaps afterKey with
      | ':' :: afterColon => do
        let (value, rest) ← readValue fuel depth afterColon
        match skipGaps rest with
        | ',' :: after => readFields fuel depth (insertField key value done) after
        | '\x7d' :: after => some (.object (insertField key value done), after)
        | _ => none
      | _ => none
    | _ => none

end

/-- How many arrays and objects may be open at once, and one more. -/
def depthLimit : Nat := 128

/-- Reads a whole text. Of two calls in a row at least one takes a character. -/
def read (text : String) : Option Json :=
  let cs := text.toList
  match readValue (2 * cs.length + 2) depthLimit cs with
  | some (value, rest) => if (skipGaps rest).isEmpty then some value else none
  | none => none

end PullRequestBot.Json
