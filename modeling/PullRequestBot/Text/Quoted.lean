import PullRequestBot.Text.EscapedTable

set_option autoImplicit false

/-! # Quoted texts in messages

A text that a message quotes stands between double quotes. Quotes and backslashes in it are
written behind a backslash, the common control characters by a letter, and every other character
that would not show as itself by its number in braces. -/

namespace PullRequestBot.Text

/-- The digits of a number to base 16, small letters. -/
def hexDigits (n : Nat) : List Char :=
  Nat.toDigits 16 n

/-- How one character is written inside quotes; `alsoSingle` also escapes the single quote. -/
def quotedChar (alsoSingle : Bool) (c : Char) : List Char :=
  if c = '\x00' then ['\\', '0']
  else if c = '\t' then ['\\', 't']
  else if c = '\r' then ['\\', 'r']
  else if c = '\n' then ['\\', 'n']
  else if c = '"' || c = '\\' || (alsoSingle && c = '\'') then ['\\', c]
  else if isEscapedByNumber c then "\\u\x7b".toList ++ hexDigits c.toNat ++ ['\x7d']
  else [c]

/-- A text between double quotes, with its escapes. -/
def quote (s : String) : String :=
  String.ofList ('"' :: s.toList.flatMap (quotedChar false) ++ ['"'])

/-- A file path between double quotes: single quotes are escaped too. -/
def quotePath (s : String) : String :=
  String.ofList ('"' :: s.toList.flatMap (quotedChar true) ++ ['"'])

end PullRequestBot.Text
