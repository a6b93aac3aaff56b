import PullRequestBot.Hosting.Address
import PullRequestBot.Log.Level
import PullRequestBot.Number.Spelled

set_option autoImplicit false

/-! # Grammars of command lines

A grammar says which operands, options and commands may stand on one level of a command line. Options
are named by words behind two dashes or by letters behind one; a flag stands alone, every other option
takes one value. -/

namespace PullRequestBot.CommandLine

/-! ## Refusals -/

/-- Why a command line is not carried out. -/
inductive Refusal where
  /-- Help was asked for. -/
  | help
  /-- The version was asked for. -/
  | version
  /-- A value is missing or empty. -/
  | invalidValue
  /-- Nothing of that name is known. -/
  | unknownArgument
  /-- A flag was given a value. -/
  | tooManyValues
  /-- Two arguments exclude each other, or one was given twice. -/
  | argumentConflict
  /-- A value does not have the form it should. -/
  | valueValidation
  /-- No command has that name. -/
  | invalidSubcommand
  /-- An argument that has to be given is missing. -/
  | missingRequiredArgument
deriving DecidableEq, Repr

namespace Refusal

/-- The exit code: an answer to a question is a success, misuse is not. -/
def exitCode : Refusal → Nat
  | help | version => 0
  | _ => 2

/-- The name of a refusal. -/
def name : Refusal → String
  | help => "DisplayHelp"
  | version => "DisplayVersion"
  | invalidValue => "InvalidValue"
  | unknownArgument => "UnknownArgument"
  | tooManyValues => "TooManyValues"
  | argumentConflict => "ArgumentConflict"
  | valueValidation => "ValueValidation"
  | invalidSubcommand => "InvalidSubcommand"
  | missingRequiredArgument => "MissingRequiredArgument"

/-- The wording of a refusal. -/
def message : Refusal → String
  | help => "help was asked for"
  | version => "the version was asked for"
  | invalidValue => "a value is required but none was supplied"
  | unknownArgument => "unexpected argument found"
  | tooManyValues => "unexpected value for an argument that takes none"
  | argumentConflict => "an argument cannot be used together with another one"
  | valueValidation => "invalid value for an argument"
  | invalidSubcommand => "unrecognized command"
  | missingRequiredArgument => "a required argument was not provided"

end Refusal

/-! ## Values -/

/-- The form that a value has to have. -/
inductive Form where
  | text
  /-- A path is not empty. -/
  | path
  /-- A log level. -/
  | level
  /-- A natural number of 64 bits. -/
  | number
  /-- A repository with its owner. -/
  | repository
deriving DecidableEq, Repr

/-- The level that a text spells. -/
def level? (text : String) : Option Log.Level :=
  match Spelled.integer? text with
  | some number => if 0 ≤ number then Log.Level.ofNat? number.toNat else none
  | none => none

/-- The number that a text spells. -/
def number? (text : String) : Option Nat :=
  Spelled.natural? (Word.bound 64) text

/-- Checks the form of a value. -/
def Form.check (form : Form) (value : String) : Except Refusal Unit :=
  match form with
  | .text => .ok ()
  | .path => if value.isEmpty then .error .invalidValue else .ok ()
  | .level => if (level? value).isSome then .ok () else .error .valueValidation
  | .number => if (number? value).isSome then .ok () else .error .valueValidation
  | .repository =>
    if (RepositoryName.read? value).isSome then .ok () else .error .valueValidation

/-! ## Arguments -/

/-- What an argument does with its values. -/
inductive Kind where
  /-- Takes no value and may be given once. -/
  | flag
  /-- Takes a value and may be given once. -/
  | single (form : Form)
  /-- Takes a value each time it is given. -/
  | repeated (form : Form)
  /-- Asks for help. -/
  | help
  /-- Asks for the version. -/
  | version
deriving DecidableEq, Repr

/-- Whether an argument of that kind takes a value. -/
def Kind.takesValue : Kind → Bool
  | single _ | repeated _ => true
  | flag | help | version => false

/-- An operand or an option. -/
structure Parameter where
  name : String
  kind : Kind
  words : List String := []
  letter : Option Char := none
  isRequired : Bool := false
deriving DecidableEq, Repr

/-- What may stand on one level of a command line. -/
structure Grammar where
  operands : List Parameter := []
  options : List Parameter := []
  /-- The names of the commands that open the next level, with their other names. -/
  commands : List (String × List String) := []
  /-- Pairs of arguments that exclude each other. -/
  conflicts : List (String × String) := []
deriving DecidableEq, Repr

namespace Grammar

/-- The command that a word opens the next level with. -/
def command? (grammar : Grammar) (word : String) : Option String :=
  (grammar.commands.find? fun (name, others) => name == word || others.contains word).map (·.1)

/-- The option of a word. -/
def ofWord? (grammar : Grammar) (word : String) : Option Parameter :=
  grammar.options.find? fun option => option.words.contains word

/-- The option of a letter. -/
def ofLetter? (grammar : Grammar) (letter : Char) : Option Parameter :=
  grammar.options.find? fun option => option.letter == some letter

end Grammar

end PullRequestBot.CommandLine
