import PullRequestBot.Host.SystemFailure
import PullRequestBot.Json.Basic
import PullRequestBot.Text.Base64
import PullRequestBot.Web.Url

set_option autoImplicit false

/-! # Requests and responses

A request names a method, an address, its headers and a JSON body. A response has a status, headers
and a body of bytes. Statuses fall into classes by their first digit, and the standard ones have a
reason phrase. -/

namespace PullRequestBot.Http

/-! ## Requests -/

/-- The methods in use. -/
inductive Method where
  | get
  | post
deriving DecidableEq, Repr

/-- The name of a method. -/
def Method.name : Method → String
  | .get => "GET"
  | .post => "POST"

/-- A request as it is sent. -/
structure Request where
  method : Method
  url : Url
  /-- Every line that tells who asks; servers look at the first. -/
  authorizations : List String
  accept : String
  agent : String
  body : Option Json := none
deriving Repr

/-- The content type of a request: JSON, if it has a body. -/
def Request.contentType? (request : Request) : Option String :=
  request.body.map fun _ => "application/json"

/-! ## Responses -/

/-- A response; of several headers with one name the first counts. -/
structure Response where
  status : Nat
  headers : List (String × String) := []
  body : List UInt8 := []
deriving Repr

namespace Response

/-- A status that tells success. -/
def isSuccess (response : Response) : Bool :=
  200 ≤ response.status && response.status < 300

/-- A status that tells a failure of the client or of the server. -/
def isFailure (response : Response) : Bool :=
  400 ≤ response.status && response.status < 600

/-- Whether a header value can be read as text: visible ASCII characters, blanks and tabs. -/
def isReadable (value : String) : Bool :=
  value.toList.all fun c => c = '\t' || (0x20 ≤ c.toNat && c.toNat < 0x7F)

/-- The text of the first header of the given name, capitals and small letters alike. -/
def header? (response : Response) (name : String) : Option String :=
  let wanted := name.toList.map Char.toLower
  match response.headers.find? fun header => header.1.toList.map Char.toLower == wanted with
  | some (_, value) => if isReadable value then some value else none
  | none => none

end Response

/-- Why no response came. -/
inductive TransportFailure where
  /-- The server could not be reached. -/
  | unreachable (cause : SystemFailure)
  /-- The connection ended without a response. -/
  | closed
deriving DecidableEq, Repr

/-! ## Statuses -/

/-- The standard reason phrases. -/
def reasonPhrases : List (Nat × String) := [
  (100, "Continue"), (101, "Switching Protocols"), (102, "Processing"), (103, "Early Hints"),
  (200, "OK"), (201, "Created"), (202, "Accepted"), (203, "Non Authoritative Information"),
  (204, "No Content"), (205, "Reset Content"), (206, "Partial Content"), (207, "Multi-Status"),
  (208, "Already Reported"), (226, "IM Used"),
  (300, "Multiple Choices"), (301, "Moved Permanently"), (302, "Found"), (303, "See Other"),
  (304, "Not Modified"), (305, "Use Proxy"), (307, "Temporary Redirect"),
  (308, "Permanent Redirect"),
  (400, "Bad Request"), (401, "Unauthorized"), (402, "Payment Required"), (403, "Forbidden"),
  (404, "Not Found"), (405, "Method Not Allowed"), (406, "Not Acceptable"),
  (407, "Proxy Authentication Required"), (408, "Request Timeout"), (409, "Conflict"),
  (410, "Gone"), (411, "Length Required"), (412, "Precondition Failed"),
  (413, "Payload Too Large"), (414, "URI Too Long"), (415, "Unsupported Media Type"),
  (416, "Range Not Satisfiable"), (417, "Expectation Failed"), (418, "I'm a teapot"),
  (421, "Misdirected Request"), (422, "Unprocessable Entity"), (423, "Locked"),
  (424, "Failed Dependency"), (425, "Too Early"), (426, "Upgrade Required"),
  (428, "Precondition Required"), (429, "Too Many Requests"),
  (431, "Request Header Fields Too Large"), (451, "Unavailable For Legal Reasons"),
  (500, "Internal Server Error"), (501, "Not Implemented"), (502, "Bad Gateway"),
  (503, "Service Unavailable"), (504, "Gateway Timeout"), (505, "HTTP Version Not Supported"),
  (506, "Variant Also Negotiates"), (507, "Insufficient Storage"), (508, "Loop Detected"),
  (510, "Not Extended"), (511, "Network Authentication Required")]

/-- The reason phrase of a status; nothing for one that is not standard. -/
def reasonPhrase (status : Nat) : String :=
  (reasonPhrases.lookup status).getD ""

/-! ## Header values -/

/-- Tells who asks by name and password. -/
def basicAuthorization (credentials : Credentials) : String :=
  let password := credentials.password.getD ""
  let pair := s!"{credentials.user}:{password}"
  "Basic " ++ String.ofList (Text.Base64.encode (Text.Utf8.encode pair))

/-- Tells who asks by a token. -/
def tokenAuthorization (token : String) : String :=
  s!"Bearer {token}"

/-- Whether a text may be sent as a header value: no control characters other than tabs. -/
def isSendable (value : String) : Bool :=
  value.toList.all fun c => c = '\t' || (0x20 ≤ c.toNat && c.toNat ≠ 0x7F)

end PullRequestBot.Http
