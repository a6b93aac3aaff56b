import PullRequestBot.Hosting.PullRequest.Reader
import PullRequestBot.Proofs.Json.Record
import PullRequestBot.Proofs.Result

set_option autoImplicit false

/-! # What a record is read from

Fields hold a record if each of them that is listed is read as the record has it (`Holds`). An object is
read as a record exactly if its fields pass their checks and hold the record (`decode_object_iff`), and the
same goes for the two sides (`decodeSide_object_iff`). Nothing but the values at the listed keys matters
(`Holds.congr`), so the order of the fields does not. -/

namespace PullRequestBot

open Json (decodeField lookup lookup_cons requireField)
open Result (bind_eq_ok map_eq_ok)

namespace Json

variable {α : Type} {key : String} {fields fields' : List (String × Json)} {decode : Decoder α}
  {default value : α}

theorem decodeField_of_lookup {content : Json} (h : lookup key fields = some content) :
    decodeField fields key decode default = decode content := by
  rw [decodeField, h]

theorem decodeField_of_missing (h : lookup key fields = none) :
    decodeField fields key decode default = .ok default := by
  rw [decodeField, h]

theorem requireField_of_lookup {content : Json} (h : lookup key fields = some content) :
    requireField fields key decode = decode content := by
  rw [requireField, h]

theorem decodeField_congr (h : lookup key fields = lookup key fields') :
    decodeField fields key decode default = decodeField fields' key decode default := by
  rw [decodeField, decodeField, h]

theorem requireField_congr (h : lookup key fields = lookup key fields') :
    requireField fields key decode = requireField fields' key decode := by
  rw [requireField, requireField, h]

/-- A field that was read is there. -/
theorem lookup_of_requireField (h : requireField fields key decode = .ok value) :
    ∃ content, lookup key fields = some content ∧ decode content = .ok value := by
  cases hthere : lookup key fields with
  | none =>
      rw [requireField, hthere] at h
      exact absurd h nofun
  | some content => exact ⟨content, rfl, by rwa [requireField_of_lookup hthere] at h⟩

theorem check_of_decode {required : Bool} {content : Json} (h : decode content = .ok value) :
    (Field.of key required decode).check content = .ok () := by
  show (decode content).map _ = _
  rw [h]
  rfl

/-- A listed field passes its check if its value can be decoded. -/
theorem checkField_of_decode {shape : Shape} {required : Bool} {content : Json}
    (hlisted : shape.fields.find? (fun known => known.key == key) = some (.of key required decode))
    (h : decode content = .ok value) : shape.checkField (key, content) = .ok () := by
  rw [Shape.checkField, hlisted]
  exact check_of_decode h

end Json

namespace PullRequest

variable {fields fields' : List (String × Json)}

/-! ## Sides -/

/-- The fields are read as those of the given side. -/
structure Side.Holds (fields : List (String × Json)) (side : Side) : Prop where
  branch : requireField fields "ref" Json.decodeString = .ok side.branch
  label : decodeField fields "label" (Json.decodeOptional Json.decodeString) none = .ok side.label
  repository : decodeField fields "repo" decodeRepository none = .ok side.repository

/-- What a side is read from. -/
theorem decodeSide_object_iff {side : Side} :
    decodeSide (.object fields) = .ok side ↔
      (∀ field ∈ fields, sideShape.checkField field = .ok ()) ∧ Side.Holds fields side := by
  constructor
  · intro h
    obtain ⟨checked, hchecked, hread⟩ := bind_eq_ok.1 h
    obtain ⟨branch, hbranch, hread⟩ := bind_eq_ok.1 hread
    obtain ⟨label, hlabel, hread⟩ := bind_eq_ok.1 hread
    obtain ⟨repository, hrepository, hread⟩ := bind_eq_ok.1 hread
    obtain ⟨hfields, -, rfl⟩ := Json.Shape.decode_object_iff.1 hchecked
    obtain rfl := Except.ok.inj hread
    exact ⟨hfields, hbranch, hlabel, hrepository⟩
  · rintro ⟨hfields, hbranch, hlabel, hrepository⟩
    obtain ⟨ref, href, -⟩ := Json.lookup_of_requireField hbranch
    have hmissing : sideShape.missing? fields = none := by
      simp [Json.Shape.missing?, sideShape, Json.Field.of, href]
    refine bind_eq_ok.2 ⟨fields, Json.Shape.decode_object_iff.2 ⟨hfields, hmissing, rfl⟩, ?_⟩
    simp only [hbranch, hlabel, hrepository]
    rfl

/-! ## Records -/

/-- The fields are read as those of the given record. -/
structure Holds (fields : List (String × Json)) (pull : PullRequest) : Prop where
  owner : decodeField fields "owner" Json.decodeString "" = .ok pull.owner
  repo : decodeField fields "repo" Json.decodeString "" = .ok pull.repo
  etag : decodeField fields "ETag" decodeText none = .ok pull.etag
  lastModified : decodeField fields "Last-Modified" decodeText none = .ok pull.lastModified
  id : requireField fields "id" Json.decodeUInt64 = .ok pull.id
  number : requireField fields "number" Json.decodeUInt64 = .ok pull.number
  htmlUrl : requireField fields "html_url" Json.decodeString = .ok pull.htmlUrl
  state : requireField fields "state" decodeState = .ok pull.state
  title : decodeField fields "title" Json.decodeString "" = .ok pull.title
  body : decodeField fields "body" decodeText none = .ok pull.body
  createdAt : decodeField fields "created_at" (Json.decodeOptional decodeTime) none = .ok pull.createdAt
  updatedAt : decodeField fields "updated_at" (Json.decodeOptional decodeTime) none = .ok pull.updatedAt
  closedAt : decodeField fields "closed_at" (Json.decodeOptional decodeTime) none = .ok pull.closedAt
  mergedAt : decodeField fields "merged_at" (Json.decodeOptional decodeTime) none = .ok pull.mergedAt
  merged : decodeField fields "merged" Json.decodeBool false = .ok pull.merged
  mergeable : decodeField fields "mergeable" (Json.decodeOptional Json.decodeBool) none = .ok pull.mergeable
  mergeableState : decodeField fields "mergeable_state" (Json.decodeOptional decodeMergeableState) none =
    .ok pull.mergeableState
  labels : decodeField fields "labels" (Json.decodeList (decodeName "Label")) [] = .ok pull.labels
  head : requireField fields "head" decodeSide = .ok pull.head
  base : requireField fields "base" decodeSide = .ok pull.base

theorem ofFields_iff {pull : PullRequest} : ofFields fields = .ok pull ↔ Holds fields pull := by
  constructor
  · intro h
    obtain ⟨owner, howner, h⟩ := bind_eq_ok.1 h
    obtain ⟨repo, hrepo, h⟩ := bind_eq_ok.1 h
    obtain ⟨etag, hetag, h⟩ := bind_eq_ok.1 h
    obtain ⟨lastModified, hlastModified, h⟩ := bind_eq_ok.1 h
    obtain ⟨id, hid, h⟩ := bind_eq_ok.1 h
    obtain ⟨number, hnumber, h⟩ := bind_eq_ok.1 h
    obtain ⟨htmlUrl, hhtmlUrl, h⟩ := bind_eq_ok.1 h
    obtain ⟨state, hstate, h⟩ := bind_eq_ok.1 h
    obtain ⟨title, htitle, h⟩ := bind_eq_ok.1 h
    obtain ⟨body, hbody, h⟩ := bind_eq_ok.1 h
    obtain ⟨createdAt, hcreatedAt, h⟩ := bind_eq_ok.1 h
    obtain ⟨updatedAt, hupdatedAt, h⟩ := bind_eq_ok.1 h
    obtain ⟨closedAt, hclosedAt, h⟩ := bind_eq_ok.1 h
    obtain ⟨mergedAt, hmergedAt, h⟩ := bind_eq_ok.1 h
    obtain ⟨merged, hmerged, h⟩ := bind_eq_ok.1 h
    obtain ⟨mergeable, hmergeable, h⟩ := bind_eq_ok.1 h
    obtain ⟨mergeableState, hmergeableState, h⟩ := bind_eq_ok.1 h
    obtain ⟨labels, hlabels, h⟩ := bind_eq_ok.1 h
    obtain ⟨head, hhead, h⟩ := bind_eq_ok.1 h
    obtain ⟨base, hbase, h⟩ := bind_eq_ok.1 h
    obtain rfl := Except.ok.inj h
    exact ⟨howner, hrepo, hetag, hlastModified, hid, hnumber, hhtmlUrl, hstate, htitle, hbody, hcreatedAt,
      hupdatedAt, hclosedAt, hmergedAt, hmerged, hmergeable, hmergeableState, hlabels, hhead, hbase⟩
  · intro h
    simp only [ofFields, h.owner, h.repo, h.etag, h.lastModified, h.id, h.number, h.htmlUrl, h.state,
      h.title, h.body, h.createdAt, h.updatedAt, h.closedAt, h.mergedAt, h.merged, h.mergeable,
      h.mergeableState, h.labels, h.head, h.base]
    rfl

/-- Nothing of the fields matters but what the keys lead to. -/
theorem Holds.congr {pull : PullRequest} (h : Holds fields pull)
    (heq : ∀ key, lookup key fields' = lookup key fields) : Holds fields' pull := by
  rw [← ofFields_iff] at h ⊢
  simpa only [ofFields, decodeField, requireField, heq] using h

theorem Holds.missing?_eq_none {pull : PullRequest} (h : Holds fields pull) :
    shape.missing? fields = none := by
  obtain ⟨id, hid, -⟩ := Json.lookup_of_requireField h.id
  obtain ⟨number, hnumber, -⟩ := Json.lookup_of_requireField h.number
  obtain ⟨url, hurl, -⟩ := Json.lookup_of_requireField h.htmlUrl
  obtain ⟨state, hstate, -⟩ := Json.lookup_of_requireField h.state
  obtain ⟨head, hhead, -⟩ := Json.lookup_of_requireField h.head
  obtain ⟨base, hbase, -⟩ := Json.lookup_of_requireField h.base
  simp [Json.Shape.missing?, shape, Json.Field.of, hid, hnumber, hurl, hstate, hhead, hbase]

/-- What a record is read from. -/
theorem decode_object_iff {pull : PullRequest} :
    decode (.object fields) = .ok pull ↔
      (∀ field ∈ fields, shape.checkField field = .ok ()) ∧ Holds fields pull := by
  rw [← ofFields_iff]
  constructor
  · intro h
    obtain ⟨checked, hchecked, hread⟩ := bind_eq_ok.1 h
    obtain ⟨hfields, -, rfl⟩ := Json.Shape.decode_object_iff.1 hchecked
    exact ⟨hfields, hread⟩
  · rintro ⟨hfields, h⟩
    have hmissing := (ofFields_iff.1 h).missing?_eq_none
    exact bind_eq_ok.2 ⟨fields, Json.Shape.decode_object_iff.2 ⟨hfields, hmissing, rfl⟩, h⟩

end PullRequest

end PullRequestBot
