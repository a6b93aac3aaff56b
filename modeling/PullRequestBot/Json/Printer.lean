import PullRequestBot.Json.Basic
import PullRequestBot.Number.Notation

set_option autoImplicit false

/-! # Written JSON

`compact` writes a value on one line without blanks; `pretty` writes it over several lines, two
blanks a level. Fields are written in the order in which the value lists them. Strings are escaped
the same way in both. -/

namespace PullRequestBot.Json

/-! ## Strings and numbers -/

/-- A number to base 16 with four digits. -/
def fourHexDigits (n : Nat) : List Char :=
  let digits := Nat.toDigits 16 n
  List.replicate (4 - digits.length) '0' ++ digits

/-- How one character is written inside a string. -/
def escapedChar (c : Char) : List Char :=
  if c = '"' then ['\\', '"']
  else if c = '\\' then ['\\', '\\']
  else if c = '\n' then ['\\', 'n']
  else if c = '\r' then ['\\', 'r']
  else if c = '\t' then ['\\', 't']
  else if c = '\x08' then ['\\', 'b']
  else if c = '\x0c' then ['\\', 'f']
  else if c.toNat < 0x20 then '\\' :: 'u' :: fourHexDigits c.toNat
  else [c]

/-- A string between its quotes. -/
def stringText (s : String) : String :=
  String.ofList ('"' :: s.toList.flatMap escapedChar ++ ['"'])

/-- The digits of a number. -/
def Number.text : Json.Number → String
  | .natural n => toString n.toNat
  | .negative n => toString n.toInt
  | .float x => x.scientific

/-! ## One line -/

mutual

/-- A value on one line. -/
def compact : Json → String
  | .null => "null"
  | .bool true => "true"
  | .bool false => "false"
  | .number n => n.text
  | .string s => stringText s
  | .array items => "[" ++ compactItems items ++ "]"
  | .object fields => "\x7b" ++ compactFields fields ++ "\x7d"

/-- The items of an array, a comma between two. -/
def compactItems : List Json → String
  | [] => ""
  | [item] => compact item
  | item :: rest => compact item ++ "," ++ compactItems rest

/-- The fields of an object, a comma between two. -/
def compactFields : List (String × Json) → String
  | [] => ""
  | [(key, value)] => stringText key ++ ":" ++ compact value
  | (key, value) :: rest => stringText key ++ ":" ++ compact value ++ "," ++ compactFields rest

end

/-! ## Several lines -/

/-- A line break and the blanks of a level. -/
def newline (level : Nat) : String :=
  "\n" ++ String.ofList (List.replicate (2 * level) ' ')

mutual

/-- A value over several lines, inside the given level; fields keep their order. -/
def prettyAt (level : Nat) : Json → String
  | .array [] => "[]"
  | .array (item :: rest) =>
    "[" ++ newline (level + 1) ++ prettyAt (level + 1) item ++ prettyItems level rest
  | .object [] => "\x7b\x7d"
  | .object ((key, value) :: rest) =>
    "\x7b" ++ newline (level + 1) ++ stringText key ++ ": " ++ prettyAt (level + 1) value ++
      prettyFields level rest
  | .null => "null"
  | .bool value => if value then "true" else "false"
  | .number n => n.text
  | .string s => stringText s

/-- The further items of an array and its end. -/
def prettyItems (level : Nat) : List Json → String
  | [] => newline level ++ "]"
  | item :: rest =>
    "," ++ newline (level + 1) ++ prettyAt (level + 1) item ++ prettyItems level rest

/-- The further fields of an object and its end. -/
def prettyFields (level : Nat) : List (String × Json) → String
  | [] => newline level ++ "\x7d"
  | (key, value) :: rest =>
    "," ++ newline (level + 1) ++ stringText key ++ ": " ++ prettyAt (level + 1) value ++
      prettyFields level rest

end

/-- A value over several lines, two blanks a level. -/
def pretty (value : Json) : String :=
  prettyAt 0 value

end PullRequestBot.Json
