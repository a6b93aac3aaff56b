import PullRequestBot.CommandLine.Grammar
import PullRequestBot.Text.Split

set_option autoImplicit false

/-! # Matching arguments with a grammar

The arguments of one level are read from left to right. The values of an argument are checked when the
next one is named or the level ends, so `Progress` holds one pending argument. A level ends with the
arguments or with the name of a command, which opens the next level. -/

namespace PullRequestBot.CommandLine

/-! ## Progress -/

/-- The values given so far, by the names of their arguments. -/
abbrev Given := List (String × List String)

/-- What was read of a level so far. -/
structure Progress where
  given : Given := []
  /-- The argument read last, with its value if it is there already. -/
  pending : Option (Parameter × Option String) := none
  operandsRead : Nat := 0
  /-- Behind two dashes there are only operands. -/
  operandsOnly : Bool := false
deriving DecidableEq, Repr

namespace Progress

/-- Whether the next argument has to be the value of the pending one. -/
def awaitsValue (progress : Progress) : Bool :=
  match progress.pending with
  | some (_, none) => true
  | _ => false

/-- Whether an argument was given. -/
def has (progress : Progress) (name : String) : Bool :=
  (progress.given.lookup name).isSome

/-- Adds values to those of an argument. -/
def add (progress : Progress) (name : String) (values : List String) : Progress :=
  let before := (progress.given.lookup name).getD []
  { progress with given := (name, before ++ values) :: progress.given }

/-- Checks a value, which has to be there. -/
def checkValue (form : Form) : Option String → Except Refusal String
  | none => .error .invalidValue
  | some value => (form.check value).map fun _ => value

/-- Takes an argument with its value. -/
def take (progress : Progress) (parameter : Parameter) (value : Option String) :
    Except Refusal Progress :=
  match parameter.kind with
  | .help => .error .help
  | .version => .error .version
  | .flag =>
    if progress.has parameter.name then .error .argumentConflict
    else .ok (progress.add parameter.name [])
  | .single form =>
    if value.isSome ∧ progress.has parameter.name then .error .argumentConflict
    else (checkValue form value).map fun value => progress.add parameter.name [value]
  | .repeated form =>
    (checkValue form value).map fun value => progress.add parameter.name [value]

/-- Takes the pending argument. -/
def settle (progress : Progress) : Except Refusal Progress :=
  match progress.pending with
  | none => .ok progress
  | some (parameter, value) => { progress with pending := none }.take parameter value

/-- Takes the pending argument and then another one. -/
def takeNext (progress : Progress) (parameter : Parameter) (value : Option String) :
    Except Refusal Progress := do
  (← progress.settle).take parameter value

/-- Takes the pending argument and makes another one pending. -/
def hold (progress : Progress) (parameter : Parameter) (value : Option String) :
    Except Refusal Progress :=
  progress.settle.map fun progress => { progress with pending := some (parameter, value) }

end Progress

/-! ## Single arguments -/

namespace Grammar

/-- Reads an option named by a word, with its value behind an equals sign if it is there. -/
def readWord (grammar : Grammar) (progress : Progress) (body : String) :
    Except Refusal Progress :=
  let (word, value) := match Text.cutString '=' body with
    | some (word, value) => (word, some value)
    | none => (body, none)
  match grammar.ofWord? word with
  | none => .error .unknownArgument
  | some option =>
    if option.kind.takesValue then
      if value.isSome then progress.takeNext option value else progress.hold option none
    else if value.isSome then .error .tooManyValues
    else progress.takeNext option none

/-- Reads options named by letters. The rest behind the letter of an option with a value is its
    value, an equals sign in front of it left out. -/
def readLetters (grammar : Grammar) : List Char → Progress → Except Refusal Progress
  | [], progress => .ok progress
  | letter :: rest, progress =>
    match grammar.ofLetter? letter with
    | none => .error .unknownArgument
    | some option =>
      if option.kind.takesValue then
        match rest with
        | [] => progress.hold option none
        | '=' :: value => progress.takeNext option (some (String.ofList value))
        | value => progress.takeNext option (some (String.ofList value))
      else do readLetters grammar rest (← progress.takeNext option none)

/-- Whether a word names a command or asks for help. -/
def opensLevel (grammar : Grammar) (word : String) : Bool :=
  !grammar.commands.isEmpty && (word == "help" || (grammar.command? word).isSome)

/-- Why there is no place for an operand. -/
def refuseOperand (grammar : Grammar) (progress : Progress) (value : String) : Refusal :=
  if grammar.commands.isEmpty then .unknownArgument
  else if progress.operandsOnly ∧ grammar.opensLevel value then .unknownArgument
  else .invalidSubcommand

/-- Reads an operand. -/
def readOperand (grammar : Grammar) (progress : Progress) (value : String) :
    Except Refusal Progress :=
  match grammar.operands[progress.operandsRead]? with
  | some operand =>
    (progress.hold operand (some value)).map fun progress =>
      { progress with operandsRead := progress.operandsRead + 1 }
  | none => .error (grammar.refuseOperand progress value)

/-- Reads one argument that names no command. -/
def readArgument (grammar : Grammar) (progress : Progress) (argument : String) :
    Except Refusal Progress :=
  if progress.operandsOnly then grammar.readOperand progress argument
  else
    match argument.toList with
    | ['-', '-'] => .ok { progress with operandsOnly := true }
    | '-' :: '-' :: body => grammar.readWord progress (String.ofList body)
    | '-' :: letter :: rest => grammar.readLetters (letter :: rest) progress
    | _ =>
      match progress.pending with
      | some (parameter, none) => .ok { progress with pending := some (parameter, some argument) }
      | _ => grammar.readOperand progress argument

/-! ## Whole levels -/

/-- The answer to a request for help on a command, if it is one. -/
def answerHelp (grammar : Grammar) : List String → Refusal
  | [] => .help
  | [word] => if grammar.opensLevel word then .help else .invalidSubcommand
  | _ => .invalidSubcommand

/-- Reads the arguments of a level, up to the command that opens the next one. -/
def readLevel (grammar : Grammar) :
    Progress → List String → Except Refusal (Progress × Option (String × List String))
  | progress, [] => .ok (progress, none)
  | progress, argument :: rest =>
    if !progress.operandsOnly ∧ !progress.awaitsValue ∧ grammar.opensLevel argument then
      match grammar.command? argument with
      | some name => .ok (progress, some (name, rest))
      | none => .error (grammar.answerHelp rest)
    else
      match grammar.readArgument progress argument with
      | .ok progress => readLevel grammar progress rest
      | .error refusal => .error refusal

/-- Ends a level: nothing given excludes anything else given, and nothing required is missing. -/
def finish (grammar : Grammar) (progress : Progress) : Except Refusal Given := do
  let progress ← progress.settle
  if grammar.conflicts.any fun (a, b) => progress.has a && progress.has b then
    throw .argumentConflict
  if (grammar.operands ++ grammar.options).any fun p => p.isRequired && !progress.has p.name then
    throw .missingRequiredArgument
  return progress.given

end Grammar

end PullRequestBot.CommandLine
