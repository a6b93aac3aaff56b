import PullRequestBot.Calendar.Printer
import PullRequestBot.Json.Basic

set_option autoImplicit false

/-! # Pull requests

The record that is kept of a pull request. `toJson` lists its fields in their order; a side without
a label leaves the label out, all other fields that hold nothing are null. -/

namespace PullRequestBot

/-! ## States -/

/-- Where a pull request stands in its life. -/
inductive PullRequest.State where
  | opened
  | closed
  | merged
deriving DecidableEq, Repr

/-- Whether and why a pull request can be merged, as the platform tells it. -/
inductive PullRequest.MergeableState where
  | behind
  | blocked
  | clean
  | dirty
  | draft
  | hasHooks
  | unstable
  | unknown
deriving DecidableEq, Repr

namespace PullRequest

/-- The states by their names. -/
def State.names : List (String × State) :=
  [("open", .opened), ("closed", .closed), ("merged", .merged)]

/-- The name of a state. -/
def State.name : State → String
  | .opened => "open"
  | .closed => "closed"
  | .merged => "merged"

/-- The mergeable states by their names; any other name means an unknown one. -/
def MergeableState.names : List (String × MergeableState) :=
  [("behind", .behind), ("blocked", .blocked), ("clean", .clean), ("dirty", .dirty),
    ("draft", .draft), ("has_hooks", .hasHooks), ("unstable", .unstable), ("unknown", .unknown)]

/-- The name of a mergeable state. -/
def MergeableState.name : MergeableState → String
  | .behind => "behind"
  | .blocked => "blocked"
  | .clean => "clean"
  | .dirty => "dirty"
  | .draft => "draft"
  | .hasHooks => "has_hooks"
  | .unstable => "unstable"
  | .unknown => "unknown"

/-! ## Sides -/

/-- The head or the base of a pull request: a branch, and the repository it is in. -/
structure Side where
  branch : String
  /-- Account and branch, with a colon between them. -/
  label : Option String := none
  repository : Option String := none
deriving DecidableEq, Repr

end PullRequest

/-! ## Records -/

/-- What is kept of a pull request. -/
structure PullRequest where
  owner : String := ""
  repo : String := ""
  etag : Option String := none
  lastModified : Option String := none
  id : UInt64
  number : UInt64
  htmlUrl : String
  state : PullRequest.State
  title : String := ""
  body : Option String := none
  createdAt : Option Timestamp := none
  updatedAt : Option Timestamp := none
  closedAt : Option Timestamp := none
  mergedAt : Option Timestamp := none
  merged : Bool := false
  mergeable : Option Bool := none
  mergeableState : Option PullRequest.MergeableState := none
  labels : List String := []
  head : PullRequest.Side
  base : PullRequest.Side
deriving DecidableEq, Repr

namespace PullRequest

/-- The same pull request as one of the given repository. -/
def inRepository (pull : PullRequest) (owner repo : String) : PullRequest :=
  { pull with owner := owner, repo := repo }

/-- The same pull request with the given title and body. -/
def withText (pull : PullRequest) (title body : String) : PullRequest :=
  { pull with title := title, body := some body }

/-- Whether the pull request is open. -/
def isOpen (pull : PullRequest) : Bool :=
  pull.state == .opened

/-- A closed pull request with the merged flag is a merged one. -/
def settle (pull : PullRequest) : PullRequest :=
  if pull.state = .closed ∧ pull.merged then { pull with state := .merged } else pull

/-! ## JSON -/

/-- An object that holds a name. -/
def nameJson (name : String) : Json :=
  .object [("name", .string name)]

/-- A value or null. -/
def optionalJson {α : Type} (encode : α → Json) : Option α → Json
  | some value => encode value
  | none => .null

/-- A side as JSON. -/
def Side.toJson (side : Side) : Json :=
  .object ([("ref", .string side.branch)] ++
    (match side.label with
      | some label => [("label", .string label)]
      | none => []) ++
    [("repo", optionalJson nameJson side.repository)])

/-- A point in time as JSON. -/
def timeJson (t : Timestamp) : Json :=
  .string t.text

/-- The record as JSON, its fields in their order. -/
def toJson (pull : PullRequest) : Json :=
  .object [
    ("owner", .string pull.owner),
    ("repo", .string pull.repo),
    ("ETag", Json.ofOption pull.etag),
    ("Last-Modified", Json.ofOption pull.lastModified),
    ("id", .number (.natural pull.id)),
    ("number", .number (.natural pull.number)),
    ("html_url", .string pull.htmlUrl),
    ("state", .string pull.state.name),
    ("title", .string pull.title),
    ("body", Json.ofOption pull.body),
    ("created_at", optionalJson timeJson pull.createdAt),
    ("updated_at", optionalJson timeJson pull.updatedAt),
    ("closed_at", optionalJson timeJson pull.closedAt),
    ("merged_at", optionalJson timeJson pull.mergedAt),
    ("merged", .bool pull.merged),
    ("mergeable", optionalJson .bool pull.mergeable),
    ("mergeable_state", optionalJson (fun s => .string s.name) pull.mergeableState),
    ("labels", .array (pull.labels.map nameJson)),
    ("head", pull.head.toJson),
    ("base", pull.base.toJson)]

end PullRequest

end PullRequestBot
