import PullRequestBot.Number.Spelled
import PullRequestBot.Settings.Tree

set_option autoImplicit false

/-! # Key paths

A key path such as `github.api_url` or `list[0].name` names a place in a tree of settings: names of
letters, digits, `_` and `-` with dots between them, and numbers in brackets. -/

namespace PullRequestBot.Settings

/-- The way to a place from the top table. -/
structure KeyPath where
  root : String
  steps : List Tree.Step := []
deriving DecidableEq, Repr

namespace KeyPath

/-- The path of one key, whatever characters it has. -/
def ofKey (key : String) : KeyPath := ⟨key, []⟩

/-- All steps from the top table. -/
def fromTop (path : KeyPath) : List Tree.Step :=
  .key path.root :: path.steps

/-! ## Reading -/

/-- A character of a name. -/
def isNameChar (c : Char) : Bool :=
  c.isAlphanum || c = '_' || c = '-'

/-- Reads a name. -/
def readName (cs : List Char) : Option (String × List Char) :=
  let name := cs.takeWhile isNameChar
  if name.isEmpty then none else some (String.ofList name, cs.drop name.length)

/-- Drops blanks. -/
def skipBlanks (cs : List Char) : List Char :=
  cs.dropWhile fun c => c = ' ' || c = '\t'

/-- Reads a number of 64 bits. -/
def readNumber (cs : List Char) : Option (Int × List Char) :=
  let sign := cs.takeWhile (· = '-')
  let digits := (cs.drop sign.length).takeWhile Char.isDigit
  let written := sign ++ digits
  (Spelled.integer? (String.ofList written)).map fun number => (number, cs.drop written.length)

/-- Reads the steps after the first name; each takes a character. -/
def readSteps : Nat → List Char → Option (List Tree.Step)
  | _, [] => some []
  | 0, _ => none
  | fuel + 1, '.' :: rest => do
    let (name, rest) ← readName rest
    let steps ← readSteps fuel rest
    some (.key name :: steps)
  | fuel + 1, '[' :: rest => do
    let (number, rest) ← readNumber (skipBlanks rest)
    match skipBlanks rest with
    | ']' :: rest =>
      let steps ← readSteps fuel rest
      some (.index number :: steps)
    | _ => none
  | _, _ => none

/-- Reads a key path. -/
def read? (text : String) : Option KeyPath := do
  let (root, rest) ← readName text.toList
  let steps ← readSteps rest.length rest
  some ⟨root, steps⟩

/-- The path that a text names; a text that is no path is the name of a key of the top table. -/
def ofText (text : String) : KeyPath :=
  (read? text).getD (ofKey text)

end KeyPath

namespace Tree

/-- Sets a value at the place that a path names. -/
def set (tree : Tree) (path : KeyPath) (value : Tree) : Tree :=
  setAt value path.fromTop tree

end Tree

end PullRequestBot.Settings
