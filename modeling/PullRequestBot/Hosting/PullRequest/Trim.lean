import PullRequestBot.Json.Basic

set_option autoImplicit false

/-! # Trimming responses

Of the response that describes a pull request only the listed fields are kept. A list of fields
applies to an object, and to every object inside an array that stands in its place; any other value
stays as it is. -/

namespace PullRequestBot

/-- What is kept of a value. -/
inductive Keep where
  /-- The value as it is. -/
  | all
  /-- Of an object, the listed fields. -/
  | only (list : List (String × Keep))

namespace Keep

mutual

/-- What is kept of a value. -/
def trim (keep : Keep) : Json → Json
  | .object fields =>
    match keep with
    | .all => .object fields
    | .only list => .object (trimFields list fields)
  | .array items =>
    match keep with
    | .all => .array items
    | .only list => .array (trimItems (.only list) items)
  | value => value

/-- What is kept of the items of an array. -/
def trimItems (keep : Keep) : List Json → List Json
  | [] => []
  | item :: rest => trim keep item :: trimItems keep rest

/-- What is kept of the fields of an object. -/
def trimFields (list : List (String × Keep)) : List (String × Json) → List (String × Json)
  | [] => []
  | (key, value) :: rest =>
    match list.lookup key with
    | some keep => (key, trim keep value) :: trimFields list rest
    | none => trimFields list rest

end

/-- What is kept of a repository. -/
def repository : Keep := .only [("name", .all)]

/-- What is kept of a pull request. -/
def pullRequest : Keep := .only [
  ("ETag", .all),
  ("Last-Modified", .all),
  ("id", .all),
  ("number", .all),
  ("html_url", .all),
  ("state", .all),
  ("created_at", .all),
  ("updated_at", .all),
  ("closed_at", .all),
  ("merged_at", .all),
  ("merged", .all),
  ("mergeable", .all),
  ("mergeable_state", .all),
  ("labels", .only [("name", .all)]),
  ("head", .only [("ref", .all), ("label", .all), ("repo", repository)]),
  ("base", .only [("ref", .all), ("repo", repository)])]

end Keep

namespace PullRequest

/-- What is kept of the response that describes a pull request. -/
def trim (response : Json) : Json :=
  Keep.pullRequest.trim response

/-- The trimmed response in place of another value, of which nothing is left. -/
def trimInto (_target response : Json) : Json :=
  trim response

end PullRequest

end PullRequestBot
