import PullRequestBot.Number.Digit
import PullRequestBot.Web.Segments
import PullRequestBot.Web.Url

set_option autoImplicit false

/-! # Reading addresses

An address is read from a text the way web addresses are: line breaks and tabs are dropped, blanks
at the ends do not count, and in the schemes of the web a backslash is a slash. Everything from the
first `#` is the fragment; the first `?` before it starts the query. -/

namespace PullRequestBot

/-- How the text behind a scheme is divided. -/
inductive SchemeKind where
  /-- There is always a server, whatever the number of slashes in front of it. -/
  | web
  /-- There may be a server, but no credentials and no port. -/
  | file
  /-- There is a server only behind two slashes, and a divided path only behind one. -/
  | other
deriving DecidableEq, Repr

/-- The kind of a scheme. -/
def SchemeKind.ofScheme (scheme : String) : SchemeKind :=
  if ["http", "https", "ws", "wss", "ftp"].contains scheme then .web
  else if scheme = "file" then .file
  else .other

namespace Url

/-! ## Ends and schemes -/

/-- Whether a character does not count at the ends of an address. -/
def isOuterBlank (c : Char) : Bool :=
  c.toNat ≤ 0x20

/-- Drops what does not count: blanks at the ends, line breaks and tabs everywhere. -/
def clean (cs : List Char) : List Char :=
  let front := cs.dropWhile isOuterBlank
  let both := (front.reverse.dropWhile isOuterBlank).reverse
  both.filter fun c => c ≠ '\n' && c ≠ '\r' && c ≠ '\t'

/-- The scheme before the first colon and what follows it. -/
def splitScheme (cs : List Char) : Option (String × List Char) :=
  match Text.cut ':' cs with
  | some (c :: front, rest) =>
    if c.isAlpha && front.all fun d => d.isAlphanum || ['+', '-', '.'].contains d then
      some (String.ofList ((c :: front).map Char.toLower), rest)
    else none
  | _ => none

/-- Splits a text at the first character of the given kind, which is dropped. -/
def splitAtChar (mark : Char) (cs : List Char) : List Char × Option (List Char) :=
  match Text.cut mark cs with
  | some (front, back) => (front, some back)
  | none => (cs, none)

/-! ## Authorities -/

/-- The port that a scheme uses by itself. -/
def standardPort (scheme : String) : Option Nat :=
  if scheme = "http" ∨ scheme = "ws" then some 80
  else if scheme = "https" ∨ scheme = "wss" then some 443
  else if scheme = "ftp" then some 21
  else none

/-- The first port that there is not. -/
def portBound : Nat := 65536

/-- Reads a port; an empty one and the one of the scheme are left out. -/
def readPort (scheme : String) (cs : List Char) : Except UrlFailure (Option Nat) :=
  if cs.isEmpty then .ok none
  else
    match Digit.number? 10 cs with
    | none => .error .invalidPort
    | some port =>
      if portBound ≤ port then .error .invalidPort
      else .ok (if some port = standardPort scheme then none else some port)

/-- Splits the server from the port behind its colon; between brackets a colon does not count. -/
def splitPort (isInside : Bool) : List Char → List Char × Option (List Char)
  | [] => ([], none)
  | c :: rest =>
    if c = ':' ∧ !isInside then ([], some rest)
    else
      let (server, port) := splitPort (c = '[' || (isInside && c ≠ ']')) rest
      (c :: server, port)

/-- What stands before the last at sign, and what follows it. -/
def splitUser (cs : List Char) : Option (List Char) × List Char :=
  let place := (cs.reverse.takeWhile (· ≠ '@')).reverse
  if place.length = cs.length then (none, cs)
  else (some (cs.take (cs.length - place.length - 1)), place)

/-- Reads an authority. An empty password is none. In schemes that are not of the web the server may be
    left out, but then no port and no credentials stand there; a lone colon counts as none. -/
def readAuthority (kind : SchemeKind) (scheme : String) (cs : List Char) :
    Except UrlFailure Authority := do
  let (credentials, place) := splitUser cs
  let (user, password) := splitAtChar ':' (credentials.getD [])
  let password := password.filter fun cs => !cs.isEmpty
  let (name, port) := splitPort false place
  let isBare := port.isNone ∧ (credentials = none ∨ credentials = some [':'])
  if name.isEmpty ∧ (kind = .web ∨ ¬ isBare) then throw .noServer
  let server ← if kind = .web then Server.read name else Server.readOther name
  return {
    user := Percent.encoded Percent.inUser user
    password := password.map (Percent.encoded Percent.inUser)
    server := server
    port := ← readPort scheme (port.getD []) }

/-! ## The part before the query -/

/-- What is read before the query: where to ask, and the path. -/
abbrev Front := Option Authority × String

/-- Reads what follows the scheme of a web address. -/
def readWeb (scheme : String) (cs : List Char) : Except UrlFailure Front := do
  let body := (cs.map fun c => if c = '\\' then '/' else c).dropWhile (· = '/')
  let authority ← readAuthority .web scheme (body.takeWhile (· ≠ '/'))
  return (some authority, Segments.text (Segments.read (body.dropWhile (· ≠ '/'))))

/-- The server of a file; the machine itself needs no name. -/
def readFileServer (cs : List Char) : Except UrlFailure Server := do
  if cs.isEmpty then return .named ""
  let server ← Server.read cs
  return if server = .named "localhost" then .named "" else server

/-- The drive at the start of the path of a file. -/
def drive? (segments : List (List Char)) : Option Char :=
  segments.head?.bind Segments.drive?

/-- The path of a file: a drive is written with a colon, and where there is none, no empty segments
    stand in front of others. -/
def filePath (segments : List (List Char)) : String :=
  match drive? segments, segments.dropWhile (·.isEmpty) with
  | some letter, _ => Segments.text ([letter, ':'] :: segments.tail)
  | none, [] => Segments.text [[]]
  | none, full => Segments.text full

/-- Reads what follows the scheme of the address of a file. A drive is not a server, and leaves no room
    for one. -/
def readFile (cs : List Char) : Except UrlFailure Front := do
  let body := cs.map fun c => if c = '\\' then '/' else c
  let (name, path) := match body with
    | '/' :: '/' :: rest =>
      let name := rest.takeWhile (· ≠ '/')
      if Segments.isDrive name then ([], rest) else (name, rest.dropWhile (· ≠ '/'))
    | _ => ([], body)
  let server ← readFileServer name
  let segments := Segments.read path
  let server := if (drive? segments).isSome then .named "" else server
  return (some { server := server }, filePath segments)

/-- Reads what follows any other scheme. -/
def readOther (scheme : String) : List Char → Except UrlFailure Front
  | '/' :: '/' :: rest => do
    let authority ← readAuthority .other scheme (rest.takeWhile (· ≠ '/'))
    let path := rest.dropWhile (· ≠ '/')
    return (some authority,
      if path.isEmpty then "" else Segments.text (Segments.read path))
  | '/' :: rest => return (none, Segments.text (Segments.read rest))
  | cs => return (none, Percent.encoded Percent.isControl cs)

/-! ## Addresses -/

/-- Reads what follows a scheme up to the query. -/
def readFront (scheme : String) (cs : List Char) : Except UrlFailure Front :=
  match SchemeKind.ofScheme scheme with
  | .web => readWeb scheme cs
  | .file => readFile cs
  | .other => readOther scheme cs

/-- Characters that are encoded in a query. Where files and the web use a query, quotes are too. -/
def isEncodedInQuery (scheme : String) (c : Char) : Bool :=
  Percent.inQuery c || (c = '\'' && SchemeKind.ofScheme scheme ≠ .other)

/-- Reads an address. -/
def read (text : String) : Except UrlFailure Url :=
  match splitScheme (clean text.toList) with
  | none => .error .relative
  | some (scheme, rest) => do
    let (beforeFragment, fragment) := splitAtChar '#' rest
    let (beforeQuery, query) := splitAtChar '?' beforeFragment
    let (authority, path) ← readFront scheme beforeQuery
    return {
      scheme := scheme
      authority := authority
      path := path
      query := query.map (Percent.encoded (isEncodedInQuery scheme))
      fragment := fragment.map (Percent.encoded Percent.inFragment) }

end Url

end PullRequestBot
