import PullRequestBot.Host.Path
import PullRequestBot.Host.SystemFailure

set_option autoImplicit false

/-! # File trees

A tree of directories and files below one directory. An entry is found under the list of names that
leads to it; the directory itself is the empty list. Paths are resolved the way a system without
links does: every name but the last has to be a directory, and `..` leads to the directory above. -/

namespace PullRequestBot

/-- What may stand under a name. -/
inductive FileTree.Entry where
  | directory
  | file (content : List UInt8)
deriving Repr

/-- Directories and files by the names that lead to them. -/
structure FileTree where
  entries : List (List String × FileTree.Entry) := []
deriving Repr

namespace FileTree

/-! ## Entries -/

/-- What stands at the end of a list of names. -/
def get? (tree : FileTree) (names : List String) : Option Entry :=
  if names.isEmpty then some .directory
  else (tree.entries.find? fun entry => entry.1 == names).map (·.2)

/-- Puts an entry in place of whatever stood there. -/
def put (tree : FileTree) (names : List String) (entry : Entry) : FileTree :=
  ⟨(names, entry) :: tree.entries.filter fun old => old.1 != names⟩

/-- Whether anything stands directly below a directory. -/
def hasChildren (tree : FileTree) (names : List String) : Bool :=
  tree.entries.any fun entry => names.isPrefixOf entry.1 && entry.1.length > names.length

/-! ## Resolving paths -/

/-- Where a path leads: the names from the top, and what stands there. -/
structure Place where
  names : List String
  entry : Option Entry

/-- The place reached from a place by one step. -/
def stepFrom (tree : FileTree) (place : Place) (segment : String) : Except SystemFailure Place :=
  match place.entry with
  | none => .error .noSuchFile
  | some (.file _) => .error .notADirectory
  | some .directory =>
    if segment = "" ∨ segment = "." then .ok place
    else
      let names := if segment = ".." then place.names.dropLast else place.names ++ [segment]
      .ok ⟨names, tree.get? names⟩

/-- The top of the tree. -/
def top : Place := ⟨[], some .directory⟩

/-- The longest name that a file may have, in bytes. -/
def nameLimit : Nat := 255

/-- Resolves a path; its last name need not exist. Absolute paths lead outside the tree, where
    nothing is to be found. -/
def resolve (tree : FileTree) (path : String) : Except SystemFailure Place :=
  if path.toList.contains '\x00' then .error .nulInPath
  else if path = "" then .error .noSuchFile
  else if (Path.segments path).any fun name => nameLimit < name.utf8ByteSize then
    .error .nameTooLong
  else if Path.isAbsolute path then
    if (Path.steps path).isEmpty then .ok top else .error .noSuchFile
  else (Path.segments path).foldlM (stepFrom tree) top

/-- What a path leads to, if it leads to something. -/
def find? (tree : FileTree) (path : String) : Option Entry :=
  match tree.resolve path with
  | .ok place => place.entry
  | .error _ => none

/-! ## Changes -/

/-- Makes one directory. -/
def makeDirectory (tree : FileTree) (path : String) : Except SystemFailure FileTree := do
  -- A slash at the end does not change which directory is meant.
  let place ← tree.resolve ("/".intercalate (Path.dropIdle (Path.segments path).reverse).reverse)
  match place.entry with
  | some _ => .error .fileExists
  | none => .ok (tree.put place.names .directory)

/-- Makes a directory; one that exists is fine. -/
def makeDirectoryOnce (tree : FileTree) (path : String) : Except SystemFailure FileTree :=
  match tree.makeDirectory path with
  | .ok after => .ok after
  | .error failure =>
    match tree.find? path with
    | some .directory => .ok tree
    | _ => .error failure

/-- Makes a directory together with the missing ones above it; the fuel is the number of names. -/
def makeDirectoriesWithin : Nat → FileTree → String → Except SystemFailure FileTree
  | 0, tree, path => tree.makeDirectoryOnce path
  | fuel + 1, tree, path =>
    if path = "" then .ok tree
    else
      match tree.makeDirectoryOnce path with
      | .ok after => .ok after
      | .error failure =>
        if failure.isNotFound then
          match Path.parent path with
          | none => .error failure
          | some above => do
            let after ← makeDirectoriesWithin fuel tree above
            after.makeDirectoryOnce path
        else .error failure

/-- Makes a directory together with the missing ones above it. -/
def makeDirectories (tree : FileTree) (path : String) : Except SystemFailure FileTree :=
  makeDirectoriesWithin (Path.segments path).length tree path

/-- Opens a file for writing and makes it, empty, if it is missing. -/
def openFile (tree : FileTree) (path : String) : Except SystemFailure FileTree := do
  let place ← tree.resolve ("/".intercalate (Path.dropIdle (Path.segments path).reverse).reverse)
  match place.entry with
  | some .directory => .error .isADirectory
  | some (.file _) => if Path.endsInDirectory path then .error .notADirectory else .ok tree
  | none =>
    if Path.endsInDirectory path then .error .isADirectory
    else .ok (tree.put place.names (.file []))

/-- The content of a file. -/
def readFile (tree : FileTree) (path : String) : Except SystemFailure (List UInt8) := do
  let place ← tree.resolve path
  match place.entry with
  | none => .error .noSuchFile
  | some .directory => .error .isADirectory
  | some (.file content) => .ok content

/-- Adds bytes to the end of a file that exists. -/
def appendToFile (tree : FileTree) (path : String) (bytes : List UInt8) : FileTree :=
  match tree.resolve path with
  | .ok ⟨names, some (.file content)⟩ => tree.put names (.file (content ++ bytes))
  | _ => tree

/-- Puts a file with its content, and the directories that lead to it. -/
def addFile (tree : FileTree) (path : String) (content : List UInt8) : FileTree :=
  let above := (Path.parent path).getD ""
  let tree := (tree.makeDirectories above).toOption.getD tree
  match tree.resolve path with
  | .ok place => tree.put place.names (.file content)
  | .error _ => tree

/-- Puts a directory, and the directories that lead to it. -/
def addDirectory (tree : FileTree) (path : String) : FileTree :=
  (tree.makeDirectories path).toOption.getD tree

end FileTree

end PullRequestBot
