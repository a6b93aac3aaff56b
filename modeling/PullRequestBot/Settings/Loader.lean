import PullRequestBot.HashTable
import PullRequestBot.Host.Path
import PullRequestBot.Settings.Environment
import PullRequestBot.Settings.Reader
import PullRequestBot.Text.Utf8
import PullRequestBot.Toml.Reader

set_option autoImplicit false

/-! # Loading settings

A loader collects where settings come from: TOML sources in order, the environment, and overrides. Each
later one wins over the ones before it: the environment over all sources, and the overrides over the
environment. The overrides are kept in a hash table, so of those under one key path the last one counts,
and between those under different ones chance decides which is set first; the order matters if one place is
above the other. Nothing is read before `Loader.load`, except that an optional file is looked for when it is
added, to say whether it is there. -/

namespace PullRequestBot.Settings

open Host (ask)

/-! ## Sources -/

/-- A TOML source. -/
inductive Source where
  | text (toml : String)
  | file (path : String) (isRequired : Bool)
deriving DecidableEq, Repr

/-- What kind of source is listed. -/
inductive SourceKind where
  | file
  | optional
  | text
deriving DecidableEq, Repr

/-- The name of a kind of source. -/
def SourceKind.name : SourceKind → String
  | file => "file"
  | optional => "optional"
  | text => "string"

/-- The path beside which the same file with the ending `.toml` is looked for; none if the path has no
    last name. -/
def withTomlEnding? (path : String) : Option String :=
  match (Path.steps path).getLast? with
  | none | some ".." => none
  | some _ => some (Path.tidy path ++ ".toml")

/-- Where the file of a path is: under the path itself, or with the ending `.toml`. -/
def findFile (path : String) : Job (Option String) := do
  if (← ask (.fileKind path)) = some .file then return some path
  match withTomlEnding? path with
  | none => return none
  | some candidate =>
    if (← ask (.fileKind candidate)) = some .file then return some candidate
    return none

/-- The bytes of a file without the mark that says they are UTF-8. -/
def dropMark : List UInt8 → List UInt8
  | 0xEF :: 0xBB :: 0xBF :: rest => rest
  | bytes => bytes

/-- The content of a file and the name of the file as a source. -/
def readFile (path : String) : Job (Except SettingsFailure (String × String)) := do
  match ← findFile path with
  | none => return .error (.missingFile path)
  | some place =>
    match ← ask (.readFile place) with
    | .ok bytes => return .ok (Text.Utf8.decodeLossy (dropMark bytes), Path.tidy place)
    | .error cause => return .error (.unreadableFile cause)

/-- The trees of a TOML text by their keys. -/
def readToml (toml : String) (origin : Option String) :
    Except SettingsFailure (List (String × Tree)) :=
  match Toml.read toml with
  | some entries => .ok (Tree.ofTomlEntries origin entries)
  | none => .error (.invalidToml origin)

/-- The trees of a source by their keys. -/
def Source.read : Source → Job (Except SettingsFailure (List (String × Tree)))
  | .text toml => return readToml toml none
  | .file path isRequired => do
    match ← readFile path with
    | .ok (toml, origin) => return readToml toml (some origin)
    | .error failure => return if isRequired then .error failure else .ok []

/-- Merges the trees of a source into those of the sources before it. A key of the top table may be a
    key path. -/
def mergeTop (entries : List (String × Tree)) (tree : Tree) : Tree :=
  entries.foldl (fun tree (key, value) => tree.set (KeyPath.ofText key) value) tree

/-! ## Loaders -/

/-- Where settings come from. -/
structure Loader where
  sources : List Source := []
  /-- The word that environment variables start with, if they count. -/
  environmentWord : Option String := none
  /-- What was put into the table of overrides, in order. -/
  overrides : List (KeyPath × Scalar) := []
  /-- The sources to tell of, by the names they were given. -/
  listed : List (SourceKind × String) := []
deriving DecidableEq, Repr

namespace Loader

/-- Adds a file that has to be there. -/
def addFile (loader : Loader) (path : String) : Loader :=
  { loader with
    sources := loader.sources ++ [.file path true]
    listed := loader.listed ++ [(.file, path)] }

/-- Adds a file that may be missing; it is listed if it is there. -/
def addOptionalFile (loader : Loader) (path : String) : Job Loader := do
  let isThere := (← ask (.fileKind path)).isSome
  return { loader with
    sources := loader.sources ++ [.file path false]
    listed := loader.listed ++ if isThere then [(.optional, path)] else [] }

/-- Adds a TOML text. -/
def addText (loader : Loader) (toml : String) : Loader :=
  { loader with
    sources := loader.sources ++ [.text toml]
    listed := loader.listed ++ [(.text, "<string>")] }

/-- Lets the environment variables count that start with a word. -/
def withEnvironment (loader : Loader) (word : String) : Loader :=
  { loader with environmentWord := some word }

/-! ## Overrides -/

/-- Overrides the value under a key path. -/
def set (loader : Loader) (key : String) (value : Scalar) : Except SettingsFailure Loader :=
  match KeyPath.read? key with
  | some path => .ok { loader with overrides := loader.overrides ++ [(path, value)] }
  | none => .error (.invalidKey key)

/-- A key in which slashes may stand for dots. -/
def dotted (key : String) : String :=
  String.ofList ((Text.trim key.toList).map fun c => if c = '/' then '.' else c)

/-- Overrides a value as `KEY=VALUE` says. -/
def override (loader : Loader) (entry : String) : Except SettingsFailure Loader :=
  match Text.cutString '=' entry with
  | none => .error (.invalidValue "cli" "set" s!"expected KEY=VALUE, got '{entry}'")
  | some (key, value) =>
    let key := dotted key
    if key.isEmpty then .error (.invalidValue "cli" "set" s!"empty key in '{entry}'")
    else loader.set key (.text (Text.strip value))

/-- Overrides values one after the other. -/
def overrideAll (loader : Loader) (entries : List String) : Except SettingsFailure Loader :=
  entries.foldlM override loader

/-! ## Listing -/

/-- The listed sources, numbered from one. -/
def listing (loader : Loader) : List String :=
  loader.listed.zipIdx.map fun ((kind, path), index) => s!"{index + 1}. [{kind.name}] {path}"

/-- What the sources are called together. -/
def sourcesText (loader : Loader) : String :=
  if loader.listed.isEmpty then "<inline>" else ", ".intercalate (loader.listed.map (·.2))

/-! ## Loading -/

/-- Merges the sources in order; a source that cannot be read ends it. -/
def mergeSources : List Source → Tree → Job (Except SettingsFailure Tree)
  | [], tree => return .ok tree
  | source :: rest, tree => do
    match ← source.read with
    | .ok entries => mergeSources rest (mergeTop entries tree)
    | .error failure => return .error failure

/-- Merges the environment, if it counts. -/
def mergeEnvironment (loader : Loader) (tree : Tree) : Job Tree := do
  match loader.environmentWord with
  | none => return tree
  | some word => return Environment.merge word (← ask .environment) tree

/-- Sets the overridden values, in the order in which chance walks the table of them. -/
def mergeOverrides (loader : Loader) (draws : List Nat) (tree : Tree) : Tree :=
  (HashTable.walk draws loader.overrides).foldl
    (fun tree (path, value) => tree.set path (.leaf value none)) tree

/-- The settings in a tree, with their values checked. -/
def readTree (loader : Loader) (tree : Tree) : Except SettingsFailure Settings :=
  match ofTree tree with
  | .ok settings => settings.checked
  | .error mismatch => .error (.unreadable loader.sourcesText mismatch.message)

/-- Loads the settings. -/
def load (loader : Loader) : Job (Except SettingsFailure Settings) := do
  match ← mergeSources loader.sources Tree.empty with
  | .error failure => return .error failure
  | .ok tree =>
    let tree ← loader.mergeEnvironment tree
    return loader.readTree (loader.mergeOverrides (← ask .draw) tree)

end Loader

/-- Loads the settings of one file. -/
def loadFile (path : String) : Job (Except SettingsFailure Settings) :=
  (({} : Loader).addFile path).load

end PullRequestBot.Settings
