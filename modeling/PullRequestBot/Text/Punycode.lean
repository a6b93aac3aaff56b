set_option autoImplicit false

/-! # Punycode

A row of characters written with ASCII letters and digits alone. The ASCII characters come first, a
hyphen behind them; the others follow as a row of numbers. Each number says how far to go on from the
last insertion, counting through all places of the row as it is so far for one character after the
other. The numbers have digits of changing bounds: a digit below its bound is the last of its number,
and the bounds adapt to the size of the numbers before. -/

namespace PullRequestBot.Punycode

/-! ## Digits and bounds -/

/-- The letter or decimal digit that stands for a number below 36. -/
def digit (n : Nat) : Char :=
  if n < 26 then Char.ofNat ('a'.toNat + n) else Char.ofNat ('0'.toNat + n - 26)

/-- The number that a letter or decimal digit stands for. -/
def digitValue? (c : Char) : Option Nat :=
  if c.isLower then some (c.toNat - 'a'.toNat)
  else if c.isUpper then some (c.toNat - 'A'.toNat)
  else if c.isDigit then some (c.toNat - '0'.toNat + 26)
  else none

/-- The bound of the digit at a place; places count from 36 in steps of 36. -/
def bound (bias place : Nat) : Nat :=
  min 26 (max 1 (place - bias))

theorem bound_pos (bias place : Nat) : 0 < bound bias place := by
  simp only [bound]; omega

/-- Divides a number until it is small, and counts 36 for each division. -/
def shrink (number : Nat) : Nat × Nat :=
  if 455 < number then
    let (rest, places) := shrink (number / 35)
    (rest, places + 36)
  else (number, 0)
termination_by number
decreasing_by exact Nat.div_lt_self (by omega) (by omega)

/-- The bias after a number, when so many characters have been placed. -/
def adapt (number placed : Nat) (isFirst : Bool) : Nat :=
  let scaled := if isFirst then number / 700 else number / 2
  let (rest, places) := shrink (scaled + scaled / placed)
  places + 36 * rest / (rest + 38)

/-- The first character that is not in ASCII. -/
def firstOther : Nat := 128

/-- The bias of the first number. -/
def firstBias : Nat := 72

/-! ## Writing -/

/-- The digits of a number. -/
def writeNumber (bias place number : Nat) : List Char :=
  if number < bound bias place then [digit number]
  else
    let left := number - bound bias place
    let width := 36 - bound bias place
    digit (bound bias place + left % width) :: writeNumber bias (place + 36) (left / width)
termination_by number
decreasing_by
  have := bound_pos bias place
  calc (number - bound bias place) / (36 - bound bias place)
      ≤ number - bound bias place := Nat.div_le_self _ _
    _ < number := by omega

/-- How far writing has come. -/
structure Written where
  /-- The digits so far. -/
  digits : List Char := []
  /-- Places passed since the last insertion. -/
  passed : Nat := 0
  /-- How many characters have been placed. -/
  placed : Nat
  bias : Nat := firstBias
  isFirst : Bool := true

/-- Passes one character of the row, looking for the character of the given number. -/
def Written.pass (code : Nat) (state : Written) (c : Char) : Written :=
  if c.toNat < code then { state with passed := state.passed + 1 }
  else if c.toNat = code then {
    digits := state.digits ++ writeNumber state.bias 36 state.passed
    passed := 0
    placed := state.placed + 1
    bias := adapt state.passed (state.placed + 1) state.isFirst
    isFirst := false }
  else state

/-- Writes the places of the given characters, which are in ascending order and not below `next`. -/
def writeCodes (cs : List Char) : (next : Nat) → List Nat → Written → Written
  | _, [], state => state
  | next, code :: codes, state =>
    let start := { state with passed := state.passed + (code - next) * (state.placed + 1) }
    let done := cs.foldl (Written.pass code) start
    writeCodes cs (code + 1) codes { done with passed := done.passed + 1 }

/-- Puts a number into an ascending list, unless it is there. -/
def insertCode (code : Nat) : List Nat → List Nat
  | [] => [code]
  | other :: rest =>
    if code < other then code :: other :: rest
    else if code = other then other :: rest
    else other :: insertCode code rest

/-- Whether a character is in ASCII. -/
def isPlain (c : Char) : Bool :=
  c.toNat < firstOther

/-- A row of characters, written. -/
def encode (cs : List Char) : List Char :=
  let plain := cs.filter isPlain
  let codes := (cs.filter fun c => !isPlain c).foldr (fun c codes => insertCode c.toNat codes) []
  plain ++ (if plain.isEmpty then [] else ['-']) ++
    (writeCodes cs firstOther codes { placed := plain.length }).digits

/-! ## Reading -/

/-- How far reading has come. -/
structure Reading where
  row : List Char
  /-- The character that is being placed. -/
  code : Nat := firstOther
  /-- The place of the next insertion, if its number were complete. -/
  index : Nat := 0
  /-- The place of the last insertion. -/
  origin : Nat := 0
  /-- What the next digit counts for. -/
  weight : Nat := 1
  place : Nat := 36
  bias : Nat := firstBias
  isFirst : Bool := true

/-- Puts a character at a place of a row. -/
def insertAt (c : Char) : Nat → List Char → List Char
  | 0, row => c :: row
  | _, [] => [c]
  | n + 1, d :: row => d :: insertAt c n row

/-- Reads a digit; the last digit of a number inserts a character. -/
def Reading.step (state : Reading) (c : Char) : Option Reading := do
  let value ← digitValue? c
  let index := state.index + value * state.weight
  let limit := bound state.bias state.place
  if value < limit then
    let room := state.row.length + 1
    let code := state.code + index / room
    if code.isValidChar then
      some {
        row := insertAt (Char.ofNat code) (index % room) state.row
        code := code
        index := index % room + 1
        origin := index % room + 1
        bias := adapt (index - state.origin) room state.isFirst
        isFirst := false }
    else none
  else some { state with
    index := index
    weight := state.weight * (36 - limit)
    place := state.place + 36 }

/-- The ASCII characters of a written row and the digits behind their hyphen. -/
def splitPlain (cs : List Char) : List Char × List Char :=
  let digits := (cs.reverse.takeWhile (· ≠ '-')).reverse
  let plain := cs.take (cs.length - digits.length - 1)
  if plain.isEmpty && digits.length < cs.length then ([], cs) else (plain, digits)

/-- The row of characters that was written; `none` for a text that is not the written form of one. -/
def decode (cs : List Char) : Option (List Char) := do
  let (plain, digits) := splitPlain cs
  if !plain.all isPlain then none
  let state ← digits.foldlM Reading.step { row := plain }
  if state.place = 36 then some state.row else none

end PullRequestBot.Punycode
