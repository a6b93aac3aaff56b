import PullRequestBot.Text.Split
import PullRequestBot.Web.Percent

set_option autoImplicit false

/-! # Segments of paths

The path of an address is a row of segments with slashes in front of them. Segments that mean the
place itself or the place above are carried out when the path is read. The name of a drive, a letter
with a colon or a bar behind it, has no place above. -/

namespace PullRequestBot.Segments

/-- A segment that stands for the place itself. -/
def isHere (segment : List Char) : Bool :=
  [".".toList, "%2e".toList].contains (segment.map Char.toLower)

/-- A segment that stands for the place above. -/
def isAbove (segment : List Char) : Bool :=
  ["..".toList, ".%2e".toList, "%2e.".toList, "%2e%2e".toList].contains
    (segment.map Char.toLower)

/-- The letter of a drive that a segment names. -/
def drive? : List Char → Option Char
  | [letter, mark] => if letter.isAlpha && (mark = ':' || mark = '|') then some letter else none
  | _ => none

/-- Whether a segment is the name of a drive. -/
def isDrive (segment : List Char) : Bool :=
  (drive? segment).isSome

/-- Drops the latest segment, unless it is the name of a drive. -/
def goUp : List (List Char) → List (List Char)
  | [] => []
  | segment :: before => if isDrive segment then segment :: before else before

/-- Carries out the segments of a path from left to right; `done` holds the ones kept, latest first.
    A path that ends with a place itself or above ends in a slash. -/
def normalize (done : List (List Char)) : List (List Char) → List (List Char)
  | [] => done.reverse
  | [segment] =>
    if isAbove segment then ([] :: goUp done).reverse
    else if isHere segment then ([] :: done).reverse
    else (segment :: done).reverse
  | segment :: rest =>
    if isAbove segment then normalize (goUp done) rest
    else if isHere segment then normalize done rest
    else normalize (segment :: done) rest

/-- The segments between the slashes of a text; a slash in front of the first may be left out. -/
def read (cs : List Char) : List (List Char) :=
  let body :=
    match cs with
    | '/' :: rest => rest
    | _ => cs
  normalize [] (Text.pieces '/' (Percent.encode Percent.inPath body))

/-- The path of segments. -/
def text (segments : List (List Char)) : String :=
  String.ofList (segments.flatMap fun segment => '/' :: segment)

end PullRequestBot.Segments
