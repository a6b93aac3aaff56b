import PullRequestBot.Calendar.Reader
import PullRequestBot.Hosting.PullRequest.Basic
import PullRequestBot.Json.Decode

set_option autoImplicit false

/-! # Reading pull requests

`decode` reads a record from JSON as it was kept; `ofResponse` reads one from a response of the
platform, where a closed pull request with the merged flag is a merged one. -/

namespace PullRequestBot.PullRequest

open Json (Decoder DecodeFailure Field Shape decodeField requireField)

/-! ## Parts -/

/-- A point in time. -/
def decodeTime : Decoder Timestamp
  | .string s =>
    match Timestamp.read s with
    | .ok t => .ok t
    | .error failure => .error (.malformed failure.message)
  | value => Json.mismatch value "an RFC 3339 formatted date and time string"

/-- A record with nothing but a name. -/
def nameShape (name : String) : Shape :=
  ⟨name, [.of "name" true Json.decodeString]⟩

/-- The name out of a record that has nothing else. -/
def decodeName (name : String) : Decoder String := fun value => do
  let fields ← (nameShape name).decode value
  requireField fields "name" Json.decodeString

/-- The repository of a side. -/
def decodeRepository : Decoder (Option String) :=
  Json.decodeOptional (decodeName "RepoName")

/-- The fields of a side. -/
def sideShape : Shape :=
  ⟨"PullRequestRef", [
    .of "ref" true Json.decodeString,
    .of "label" false (Json.decodeOptional Json.decodeString),
    .of "repo" false decodeRepository]⟩

/-- The head or the base of a pull request. -/
def decodeSide : Decoder Side := fun value => do
  let fields ← sideShape.decode value
  return {
    branch := ← requireField fields "ref" Json.decodeString
    label := ← decodeField fields "label" (Json.decodeOptional Json.decodeString) none
    repository := ← decodeField fields "repo" decodeRepository none }

/-- A state. -/
def decodeState : Decoder State :=
  Json.decodeChoice State.names

/-- A mergeable state. -/
def decodeMergeableState : Decoder MergeableState :=
  Json.decodeChoice MergeableState.names (some .unknown)

/-! ## Records -/

/-- A string that may be null. -/
def decodeText : Decoder (Option String) :=
  Json.decodeOptional Json.decodeString

/-- The fields of a record. -/
def shape : Shape :=
  ⟨"PullRequestRecord", [
    .of "owner" false Json.decodeString,
    .of "repo" false Json.decodeString,
    .of "ETag" false decodeText,
    .of "Last-Modified" false decodeText,
    .of "id" true Json.decodeUInt64,
    .of "number" true Json.decodeUInt64,
    .of "html_url" true Json.decodeString,
    .of "state" true decodeState,
    .of "title" false Json.decodeString,
    .of "body" false decodeText,
    .of "created_at" false (Json.decodeOptional decodeTime),
    .of "updated_at" false (Json.decodeOptional decodeTime),
    .of "closed_at" false (Json.decodeOptional decodeTime),
    .of "merged_at" false (Json.decodeOptional decodeTime),
    .of "merged" false Json.decodeBool,
    .of "mergeable" false (Json.decodeOptional Json.decodeBool),
    .of "mergeable_state" false (Json.decodeOptional decodeMergeableState),
    .of "labels" false (Json.decodeList (decodeName "Label")),
    .of "head" true decodeSide,
    .of "base" true decodeSide]⟩

/-- The record of checked fields. -/
def ofFields (fields : List (String × Json)) : Except DecodeFailure PullRequest := do
  return {
    owner := ← decodeField fields "owner" Json.decodeString ""
    repo := ← decodeField fields "repo" Json.decodeString ""
    etag := ← decodeField fields "ETag" decodeText none
    lastModified := ← decodeField fields "Last-Modified" decodeText none
    id := ← requireField fields "id" Json.decodeUInt64
    number := ← requireField fields "number" Json.decodeUInt64
    htmlUrl := ← requireField fields "html_url" Json.decodeString
    state := ← requireField fields "state" decodeState
    title := ← decodeField fields "title" Json.decodeString ""
    body := ← decodeField fields "body" decodeText none
    createdAt := ← decodeField fields "created_at" (Json.decodeOptional decodeTime) none
    updatedAt := ← decodeField fields "updated_at" (Json.decodeOptional decodeTime) none
    closedAt := ← decodeField fields "closed_at" (Json.decodeOptional decodeTime) none
    mergedAt := ← decodeField fields "merged_at" (Json.decodeOptional decodeTime) none
    merged := ← decodeField fields "merged" Json.decodeBool false
    mergeable := ← decodeField fields "mergeable" (Json.decodeOptional Json.decodeBool) none
    mergeableState :=
      ← decodeField fields "mergeable_state" (Json.decodeOptional decodeMergeableState) none
    labels := ← decodeField fields "labels" (Json.decodeList (decodeName "Label")) []
    head := ← requireField fields "head" decodeSide
    base := ← requireField fields "base" decodeSide }

/-- A record as it was kept. -/
def decode : Decoder PullRequest := fun value => do
  ofFields (← shape.decode value)

/-- A record from a response of the platform. -/
def ofResponse : Decoder PullRequest := fun value =>
  (decode value).map settle

end PullRequestBot.PullRequest
