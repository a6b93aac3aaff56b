import PullRequestBot.Web.Server

set_option autoImplicit false

/-! # Addresses

An address has a scheme, mostly a server with the credentials for it, a path, a query and a fragment.
The parts are kept in their written form, in which characters with a meaning of their own are encoded.
The fragment and the user are shown but are no part of what is sent. -/

namespace PullRequestBot

/-- Who asks, in readable form. -/
structure Credentials where
  user : String
  password : Option String := none
deriving DecidableEq, Repr

/-- The part of an address that tells where to ask, and as whom. -/
structure Authority where
  user : String := ""
  password : Option String := none
  server : Server
  /-- Left out where it is the one of the scheme. -/
  port : Option Nat := none
deriving DecidableEq, Repr

namespace Authority

/-- The written form of an authority. -/
def text (authority : Authority) : String :=
  let password := match authority.password with
    | some password => ":" ++ password
    | none => ""
  let mark := if authority.user = "" ∧ authority.password = none then "" else "@"
  let port := match authority.port with
    | some port => s!":{port}"
    | none => ""
  s!"{authority.user}{password}{mark}{authority.server.text}{port}"

/-- The same place for everybody. -/
def anonymous (authority : Authority) : Authority :=
  { authority with user := "", password := none }

/-- A part of the credentials in readable form, if it is a text. -/
def decodePart (part : String) : Option String :=
  Text.Utf8.decode (Percent.decode part.toList)

/-- The credentials of an authority. There are none if the user is not a text, or if the user is
    empty and no password is a text. -/
def credentials? (authority : Authority) : Option Credentials := do
  let user ← decodePart authority.user
  let password := authority.password.bind decodePart
  if user = "" ∧ password = none then none else some ⟨user, password⟩

end Authority

/-- An address. -/
structure Url where
  scheme : String
  authority : Option Authority
  path : String
  query : Option String := none
  fragment : Option String := none
deriving DecidableEq, Repr

namespace Url

/-! ## Written form -/

/-- What stands in front of the path. A path without a server must not look like one. -/
def origin (url : Url) : String :=
  match url.authority with
  | some authority => s!"{url.scheme}://{authority.text}"
  | none => if url.path.startsWith "//" then s!"{url.scheme}:/." else s!"{url.scheme}:"

/-- The text of an address. -/
def text (url : Url) : String :=
  let query := match url.query with
    | some query => "?" ++ query
    | none => ""
  let fragment := match url.fragment with
    | some fragment => "#" ++ fragment
    | none => ""
  s!"{url.origin}{url.path}{query}{fragment}"

/-! ## Credentials -/

/-- The credentials that an address holds. -/
def credentials? (url : Url) : Option Credentials :=
  url.authority.bind Authority.credentials?

/-- The address for everybody. -/
def anonymous (url : Url) : Url :=
  { url with authority := url.authority.map Authority.anonymous }

/-- The address without the credentials that it holds; what cannot be read as credentials stays. -/
def withoutCredentials (url : Url) : Url :=
  if url.credentials?.isSome then url.anonymous else url

/-- The text of an address as it is sent: where to ask and for what, without user and fragment. -/
def sent (url : Url) : String :=
  text { url.anonymous with fragment := none }

/-! ## Where a request can go -/

/-- Whether an address names a server. -/
def hasServer (url : Url) : Bool :=
  url.authority.any (·.server.isPresent)

/-- Whether requests are defined for the scheme of an address. -/
def hasRequests (url : Url) : Bool :=
  url.scheme = "http" || url.scheme = "https"

/-- The longest address that is sent, in bytes. -/
def maxLength : Nat := 65534

/-- Whether an address can be written into a request: it is not too long, and its server has no
    characters that end a word there. -/
def isSendable (url : Url) : Bool :=
  url.text.utf8ByteSize ≤ maxLength &&
    url.authority.all fun authority =>
      authority.server.text.toList.all fun c => !(['"', '`', '\x7b', '\x7d'].contains c)

end Url

end PullRequestBot
