import PullRequestBot.Number.Spelled
import PullRequestBot.Settings.KeyPath
import PullRequestBot.Text.Lowercase

set_option autoImplicit false

/-! # Settings in the environment

An environment variable sets a value if its name starts with a given word and an underscore, in any
case. Of the rest of the name, two underscores stand for the dot of a key path, as keys have single
ones. A value that spells a boolean or a number is taken as one. -/

namespace PullRequestBot.Settings.Environment

/-! ## Names -/

/-- Replaces two underscores by a dot, from the left. -/
def replaceSeparators : List Char → List Char
  | '_' :: '_' :: rest => '.' :: replaceSeparators rest
  | c :: rest => c :: replaceSeparators rest
  | [] => []

/-- The key path text that the name of a variable stands for, if the variable sets a value. -/
def key? (word name : String) : Option String :=
  let start := (Text.lowercaseString (word ++ "_")).toList
  let name := (Text.lowercaseString name).toList
  if start.isPrefixOf name then
    some (String.ofList (replaceSeparators (name.drop start.length)))
  else none

/-! ## Values -/

/-- What the value of a variable stands for. -/
def scalar (value : String) : Scalar :=
  let lowercase := Text.lowercaseString value
  if lowercase = "true" then .boolean true
  else if lowercase = "false" then .boolean false
  else
    match Spelled.integer? value with
    | some number => .integer number
    | none =>
      match Spelled.float? value with
      | some number => .float number
      | none => .text value

/-- The value that a variable sets. -/
def leaf (value : String) : Tree :=
  .leaf (scalar value) (some "the environment")

/-! ## All variables -/

/-- Sets the values of the variables that start with a word, one after the other. -/
def merge (word : String) (entries : List (String × String)) (tree : Tree) : Tree :=
  entries.foldl (fun tree (name, value) =>
    match key? word name with
    | some key => tree.set (KeyPath.ofText key) (leaf value)
    | none => tree) tree

end PullRequestBot.Settings.Environment
