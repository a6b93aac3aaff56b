import PullRequestBot.Json.Decode
import PullRequestBot.Settings.Basic
import PullRequestBot.Settings.Mismatch

set_option autoImplicit false

/-! # Settings from raw values

`Settings.ofTree` reads the settings out of a tree of raw values. What the tree does not name keeps its
default, and what it names must be known. A section may also be an array of its values in order. -/

namespace PullRequestBot.Settings

/-! ## Single settings -/

/-- A log level. -/
def level : Conversion Log.Level := fun tree => do
  let number ← naturalOf 8 tree
  match Log.Level.read number with
  | .ok level => return level
  | .error failure => throw { detail := failure.message }

/-- The settings with the value of one of them taken from a tree. -/
def assign (settings : Settings) (setting : Setting) (tree : Tree) : Except Mismatch Settings :=
  match setting with
  | .dryRun => return { settings with dryRun := ← boolean tree }
  | .outputLogLevel => return { settings with outputLogLevel := ← level tree }
  | .fileLogLevel => return { settings with fileLogLevel := ← level tree }
  | .logFile => return { settings with logFile := ← optional text tree }
  | .jsonLogs => return { settings with jsonLogs := ← boolean tree }
  | .defaultBaseBranch => return { settings with defaultBaseBranch := ← text tree }
  | .lockFile => return { settings with lockFile := ← optional text tree }
  | .apiUrl => return { settings with apiUrl := ← text tree }
  | .token => return { settings with token := ← optional text tree }
  | .tokenVariable => return { settings with tokenVariable := ← text tree }
  | .requestTimeout => return { settings with requestTimeout := ← natural tree }
  | .forkSettle => return { settings with forkSettle := ← natural tree }
  | .forkVisibilityAttempts =>
    return { settings with forkVisibilityAttempts := ← naturalOf 32 tree }
  | .branchSync => return { settings with branchSync := ← natural tree }

/-! ## Sections -/

/-- The mismatch of a key that names nothing. -/
def unknownKey {α : Type} (key : String) (known : List String) : Except Mismatch α :=
  .error { detail := s!"unknown field `{key}`, {Json.choiceText known}" }

/-- What a value is called that stands in place of a section. -/
def sectionDescription : Tree → String
  | .leaf (.integer value) _ => s!"integer `{value}`"
  | .leaf (.float value) _ =>
    let digits := value.positional
    if value.isFinite ∧ '.' ∉ digits.toList then s!"floating point `{digits}.0`"
    else s!"floating point `{digits}`"
  | tree => tree.description

/-- Takes over the value that a key of a section names. -/
def assignKey (group : Section) (settings : Settings) (entry : String × Tree) :
    Except Mismatch Settings :=
  match group.settings.find? fun setting => setting.key == entry.1 with
  | some setting => (settings.assign setting entry.2).mapError (·.underKey entry.1)
  | none => unknownKey entry.1 (group.settings.map (·.key))

/-- Takes over the value of an item of a section that is an array. -/
def assignItem (settings : Settings) (item : (Setting × Tree) × Nat) : Except Mismatch Settings :=
  (settings.assign item.1.1 item.1.2).mapError (·.atItem item.2)

/-- Takes over the values of a section. -/
def assignSection (group : Section) (settings : Settings) : Tree → Except Mismatch Settings
  | .table entries _ => entries.foldlM (assignKey group) settings
  | .array items _ => ((group.settings.zip items).zipIdx).foldlM assignItem settings
  | tree => wrongType (sectionDescription tree) s!"struct {group.typeName}" none

/-! ## The whole -/

/-- Takes over the section that a key of the top table names. -/
def assignTop (settings : Settings) (entry : String × Tree) : Except Mismatch Settings :=
  match Section.all.find? fun group => group.name == entry.1 with
  | some group => (settings.assignSection group entry.2).mapError (·.underKey entry.1)
  | none => unknownKey entry.1 (Section.all.map (·.name))

/-- The settings that a tree of raw values describes. -/
def ofTree (tree : Tree) : Except Mismatch Settings :=
  tree.entries.foldlM assignTop {}

end PullRequestBot.Settings
