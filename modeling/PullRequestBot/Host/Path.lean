import PullRequestBot.Text.Split

set_option autoImplicit false

/-! # File paths

A path is a text of names between slashes. Empty names and `.` mean nothing, except that a path which
starts with a slash is absolute. `parent` is the path without its last name. -/

namespace PullRequestBot.Path

/-- The names between the slashes, empty ones included. -/
def segments (path : String) : List String :=
  Text.piecesOfString '/' path

/-- Whether a path starts at the root. -/
def isAbsolute (path : String) : Bool :=
  path.toList.head? == some '/'

/-- Drops meaningless names at the front of reversed segments, but never the last of the list. -/
def dropIdle : List String → List String
  | [] => []
  | [segment] => [segment]
  | segment :: rest => if segment = "" ∨ segment = "." then dropIdle rest else segment :: rest

/-- The path without its last name; none for the root and the empty path. -/
def parent (path : String) : Option String :=
  match dropIdle (segments path).reverse with
  | [] | [""] => none
  | [_] => some ""
  | _ :: rest =>
    match dropIdle rest with
    | [""] => some "/"
    | shorter => some ("/".intercalate shorter.reverse)

/-- The names that say where a path leads, from the directory it starts in: `.` and empty names
    are left out. -/
def steps (path : String) : List String :=
  (segments path).filter fun segment => segment != "" && segment != "."

/-- Whether a path says by its end that it leads to a directory. -/
def endsInDirectory (path : String) : Bool :=
  match (segments path).getLast? with
  | some segment => segment == "" || segment == "."
  | none => false

/-- The path in its shortest form: `.` and doubled slashes are left out. -/
def tidy (path : String) : String :=
  let body := "/".intercalate (steps path)
  if isAbsolute path then "/" ++ body else body

end PullRequestBot.Path
