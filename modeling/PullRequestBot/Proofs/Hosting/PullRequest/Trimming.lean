import PullRequestBot.Proofs.Hosting.PullRequest.Fields
import PullRequestBot.Proofs.Hosting.PullRequest.Reading

set_option autoImplicit false

/-! # Trimming keeps what a record is read from

A response whose two sides are objects is read after trimming as before, but for the owner, the repository,
the title, the body and the label of the base, of which nothing is kept (`ofResponse_trim`). The list of
what is kept and the shape of a record are walked together: what is kept of a name, of the labels and of a
side is read as before, so the checks of all fields still pass and every field still holds its value. -/

namespace PullRequestBot

open Json (Decoder Shape decodeField lookup requireField)
open Result (bind_eq_ok map_eq_ok)

/-! ## Fields of what is kept -/

namespace Keep

variable {α : Type} {key : String} {keep : Keep} {list : List (String × Keep)}
  {fields : List (String × Json)} {decode : Decoder α} {default value : α}

@[simp] theorem trim_all (value : Json) : Keep.all.trim value = value := by
  cases value with
  | _ => rfl

@[simp] theorem trimItems_eq_map (keep : Keep) (items : List Json) :
    trimItems keep items = items.map keep.trim := by
  induction items with
  | nil => rfl
  | cons item rest ih => rw [trimItems, ih, List.map_cons]

theorem mem_of_listed (h : list.lookup key = some keep) : (key, keep) ∈ list := by
  obtain ⟨before, after, rfl, -⟩ := List.lookup_eq_some_iff.1 h
  exact List.mem_append_right before List.mem_cons_self

theorem decodeField_unlisted (h : list.lookup key = none) :
    decodeField (trimFields list fields) key decode default = .ok default := by
  refine Json.decodeField_of_missing ?_
  rw [lookup_trimFields, h, Option.bind_none]

theorem lookup_whole (h : list.lookup key = some .all) :
    lookup key (trimFields list fields) = lookup key fields := by
  rw [lookup_trimFields, h, Option.bind_some]
  cases lookup key fields with
  | none => rfl
  | some content => exact congrArg some (trim_all content)

/-- A field is read after trimming if what is kept of its value is. -/
theorem decodeField_listed (hlisted : list.lookup key = some keep)
    (hkept : ∀ content, (key, content) ∈ fields → decode content = .ok value →
      decode (keep.trim content) = .ok value)
    (h : decodeField fields key decode default = .ok value) :
    decodeField (trimFields list fields) key decode default = .ok value := by
  have htrimmed : lookup key (trimFields list fields) = (lookup key fields).map keep.trim := by
    rw [lookup_trimFields, hlisted, Option.bind_some]
  cases hthere : lookup key fields with
  | none =>
      rw [hthere] at htrimmed
      rw [Json.decodeField_of_missing hthere] at h
      rwa [Json.decodeField_of_missing htrimmed]
  | some content =>
      rw [hthere] at htrimmed
      rw [Json.decodeField_of_lookup hthere] at h
      rw [Json.decodeField_of_lookup htrimmed]
      exact hkept content (Json.mem_of_lookup hthere) h

theorem requireField_listed {shown : α} (hlisted : list.lookup key = some keep)
    (hkept : ∀ content, (key, content) ∈ fields → decode content = .ok value →
      decode (keep.trim content) = .ok shown)
    (h : requireField fields key decode = .ok value) :
    requireField (trimFields list fields) key decode = .ok shown := by
  obtain ⟨content, hthere, hcontent⟩ := Json.lookup_of_requireField h
  have htrimmed : lookup key (trimFields list fields) = some (keep.trim content) := by
    rw [lookup_trimFields, hlisted, hthere]
    rfl
  rw [Json.requireField_of_lookup htrimmed]
  exact hkept content (Json.mem_of_lookup hthere) hcontent

/-- Fields pass their checks after trimming if what is kept of their values does. -/
theorem checkField_trimFields {shape : Shape}
    (h : ∀ field ∈ fields, shape.checkField field = .ok ())
    (hkept : ∀ key inner content, list.lookup key = some (.only inner) → (key, content) ∈ fields →
      shape.checkField (key, (Keep.only inner).trim content) = .ok ()) :
    ∀ field ∈ trimFields list fields, shape.checkField field = .ok () := by
  intro field hmem
  obtain ⟨key, kept⟩ := field
  obtain ⟨keep, content, hlisted, hcontent, hvalue⟩ := mem_trimFields hmem
  obtain rfl : kept = keep.trim content := hvalue
  cases keep with
  | all =>
      rw [trim_all]
      exact h _ hcontent
  | only inner => exact hkept key inner content hlisted hcontent

end Keep

namespace PullRequest

variable {fields : List (String × Json)}

/-! ## Names and labels -/

theorem decodeString_iff {value : Json} {text : String} :
    Json.decodeString value = .ok text ↔ value = .string text := by
  cases value with
  | string s => simp [Json.decodeString]
  | _ => simp [Json.decodeString, Json.mismatch]

theorem decodeName_object_iff {name text : String} :
    decodeName name (.object fields) = .ok text ↔
      (∀ field ∈ fields, (nameShape name).checkField field = .ok ()) ∧
        requireField fields "name" Json.decodeString = .ok text := by
  constructor
  · intro h
    obtain ⟨checked, hchecked, hread⟩ := bind_eq_ok.1 h
    obtain ⟨hfields, -, rfl⟩ := Json.Shape.decode_object_iff.1 hchecked
    exact ⟨hfields, hread⟩
  · rintro ⟨hfields, hread⟩
    obtain ⟨content, hthere, -⟩ := Json.lookup_of_requireField hread
    have hmissing : (nameShape name).missing? fields = none := by
      simp [Json.Shape.missing?, nameShape, Json.Field.of, hthere]
    exact bind_eq_ok.2 ⟨fields, Json.Shape.decode_object_iff.2 ⟨hfields, hmissing, rfl⟩, hread⟩

/-- A name in an array stands alone. -/
theorem items_of_decodeName {name text : String} {items : List Json}
    (h : decodeName name (.array items) = .ok text) : items = [.string text] := by
  obtain ⟨checked, hchecked, hread⟩ := bind_eq_ok.1 h
  match items with
  | [] => exact absurd hchecked nofun
  | [item] =>
      obtain ⟨_, -, hchecked⟩ := bind_eq_ok.1 hchecked
      obtain rfl := Except.ok.inj hchecked
      have hitem : Json.decodeString item = .ok text := hread
      rw [decodeString_iff.1 hitem]
  | _ :: _ :: _ =>
      obtain ⟨_, -, hchecked⟩ := bind_eq_ok.1 hchecked
      exact absurd hchecked nofun

theorem decodeName_trim {name text : String} {value : Json} (h : decodeName name value = .ok text) :
    decodeName name (Keep.repository.trim value) = .ok text := by
  cases value with
  | object fields =>
      obtain ⟨hfields, hname⟩ := decodeName_object_iff.1 h
      refine decodeName_object_iff.2 ⟨Keep.checkField_trimFields hfields ?_, ?_⟩
      · intro key inner content hlisted
        simpa using Keep.mem_of_listed hlisted
      · rwa [Json.requireField_congr (Keep.lookup_whole rfl)]
  | array items =>
      obtain rfl := items_of_decodeName h
      exact h
  | _ => exact h

theorem decodeRepository_trim {found : Option String} {value : Json}
    (h : decodeRepository value = .ok found) : decodeRepository (Keep.repository.trim value) = .ok found := by
  cases value with
  | object fields =>
      obtain ⟨text, htext, hfound⟩ := map_eq_ok.1 h
      exact map_eq_ok.2 ⟨text, decodeName_trim htext, hfound⟩
  | array items =>
      obtain ⟨text, htext, hfound⟩ := map_eq_ok.1 h
      exact map_eq_ok.2 ⟨text, decodeName_trim htext, hfound⟩
  | _ => exact h

theorem mapM_trim {items : List Json} {texts : List String}
    (h : items.mapM (decodeName "Label") = .ok texts) :
    (items.map Keep.repository.trim).mapM (decodeName "Label") = .ok texts := by
  induction items generalizing texts with
  | nil => exact h
  | cons item rest ih =>
      rw [List.mapM_cons] at h
      obtain ⟨text, htext, h⟩ := bind_eq_ok.1 h
      obtain ⟨later, hlater, h⟩ := bind_eq_ok.1 h
      rw [List.map_cons, List.mapM_cons]
      exact bind_eq_ok.2 ⟨text, decodeName_trim htext, bind_eq_ok.2 ⟨later, ih hlater, h⟩⟩

/-- A list of fields applies to every label. -/
theorem decodeLabels_trim {texts : List String} {value : Json}
    (h : Json.decodeList (decodeName "Label") value = .ok texts) :
    Json.decodeList (decodeName "Label") (Keep.repository.trim value) = .ok texts := by
  cases value with
  | array items =>
      show (Keep.trimItems Keep.repository items).mapM (decodeName "Label") = .ok texts
      rw [Keep.trimItems_eq_map]
      exact mapM_trim h
  | _ => exact absurd h nofun

/-! ## Sides -/

/-- A list of fields that keeps what a side needs: the branch, and the name of the repository. -/
structure KeepsSide (list : List (String × Keep)) : Prop where
  branch : list.lookup "ref" = some .all
  repository : list.lookup "repo" = some Keep.repository
  label : ∀ keep, list.lookup "label" = some keep → keep = .all
  only : ∀ key inner, list.lookup key = some (.only inner) → key = "repo"

/-- What is kept of the label of a side. -/
def keptLabel (list : List (String × Keep)) (side : Side) : Side :=
  { side with label := (list.lookup "label").bind fun _ => side.label }

theorem decodeSide_trimFields {list : List (String × Keep)} {side : Side} (hlist : KeepsSide list)
    (h : decodeSide (.object fields) = .ok side) :
    decodeSide (.object (Keep.trimFields list fields)) = .ok (keptLabel list side) := by
  obtain ⟨hfields, hholds⟩ := decodeSide_object_iff.1 h
  refine decodeSide_object_iff.2 ⟨Keep.checkField_trimFields hfields ?_, ?_, ?_, ?_⟩
  · -- of the fields of a side only the repository is trimmed further
    intro key inner content hlisted hcontent
    obtain rfl := hlist.only key inner hlisted
    rw [Option.some.inj (hlisted.symm.trans hlist.repository)]
    obtain ⟨found, hfound⟩ := Json.decode_of_check (hfields _ hcontent)
    exact Json.check_of_decode (decodeRepository_trim hfound)
  · rw [Json.requireField_congr (Keep.lookup_whole hlist.branch)]
    exact hholds.branch
  · unfold keptLabel
    cases hlabel : list.lookup "label" with
    | none => exact Keep.decodeField_unlisted hlabel
    | some keep =>
        obtain rfl := hlist.label keep hlabel
        rw [Json.decodeField_congr (Keep.lookup_whole hlabel)]
        exact hholds.label
  · exact Keep.decodeField_listed hlist.repository (fun _ _ => decodeRepository_trim) hholds.repository

/-- What is kept of a head. -/
def headFields : List (String × Keep) :=
  [("ref", .all), ("label", .all), ("repo", Keep.repository)]

/-- What is kept of a base. -/
def baseFields : List (String × Keep) :=
  [("ref", .all), ("repo", Keep.repository)]

theorem keepsSide_headFields : KeepsSide headFields where
  branch := rfl
  repository := rfl
  label := fun _ h => (Option.some.inj h).symm
  only key inner h := by
    have hmem := Keep.mem_of_listed h
    simp [headFields] at hmem
    exact hmem.1

theorem keepsSide_baseFields : KeepsSide baseFields where
  branch := rfl
  repository := rfl
  label := nofun
  only key inner h := by
    have hmem := Keep.mem_of_listed h
    simp [baseFields] at hmem
    exact hmem.1

/-! ## Records -/

/-- The lists of fields among what is kept of a record. -/
theorem keptFields_only {key : String} {inner : List (String × Keep)}
    (h : keptFields.lookup key = some (.only inner)) :
    (key = "labels" ∧ inner = [("name", .all)]) ∨ (key = "head" ∧ inner = headFields) ∨
      (key = "base" ∧ inner = baseFields) := by
  have hmem := Keep.mem_of_listed h
  simpa [keptFields, Keep.pullRequest, headFields, baseFields] using hmem

/-- What is left of a record after trimming. -/
def kept (pull : PullRequest) : PullRequest :=
  { pull with owner := "", repo := "", title := "", body := none, base := { pull.base with label := none } }

/-- Whatever stands at the key is an object. -/
def ObjectAt (key : String) (fields : List (String × Json)) : Prop :=
  ∀ content, (key, content) ∈ fields → ∃ inner, content = .object inner

theorem decodeHead_trim {side : Side} {content : Json} (hobject : ∃ inner, content = .object inner)
    (h : decodeSide content = .ok side) :
    decodeSide ((Keep.only headFields).trim content) = .ok side := by
  obtain ⟨inner, rfl⟩ := hobject
  exact decodeSide_trimFields keepsSide_headFields h

theorem decodeBase_trim {side : Side} {content : Json} (hobject : ∃ inner, content = .object inner)
    (h : decodeSide content = .ok side) :
    decodeSide ((Keep.only baseFields).trim content) = .ok { side with label := none } := by
  obtain ⟨inner, rfl⟩ := hobject
  exact decodeSide_trimFields keepsSide_baseFields h

/-- The fields that are kept of a record hold what is left of it. -/
theorem Holds.trimFields {pull : PullRequest} (h : Holds fields pull) (hhead : ObjectAt "head" fields)
    (hbase : ObjectAt "base" fields) : Holds (Keep.trimFields keptFields fields) pull.kept where
  owner := Keep.decodeField_unlisted rfl
  repo := Keep.decodeField_unlisted rfl
  etag := (Json.decodeField_congr (Keep.lookup_whole rfl)).trans h.etag
  lastModified := (Json.decodeField_congr (Keep.lookup_whole rfl)).trans h.lastModified
  id := (Json.requireField_congr (Keep.lookup_whole rfl)).trans h.id
  number := (Json.requireField_congr (Keep.lookup_whole rfl)).trans h.number
  htmlUrl := (Json.requireField_congr (Keep.lookup_whole rfl)).trans h.htmlUrl
  state := (Json.requireField_congr (Keep.lookup_whole rfl)).trans h.state
  title := Keep.decodeField_unlisted rfl
  body := Keep.decodeField_unlisted rfl
  createdAt := (Json.decodeField_congr (Keep.lookup_whole rfl)).trans h.createdAt
  updatedAt := (Json.decodeField_congr (Keep.lookup_whole rfl)).trans h.updatedAt
  closedAt := (Json.decodeField_congr (Keep.lookup_whole rfl)).trans h.closedAt
  mergedAt := (Json.decodeField_congr (Keep.lookup_whole rfl)).trans h.mergedAt
  merged := (Json.decodeField_congr (Keep.lookup_whole rfl)).trans h.merged
  mergeable := (Json.decodeField_congr (Keep.lookup_whole rfl)).trans h.mergeable
  mergeableState := (Json.decodeField_congr (Keep.lookup_whole rfl)).trans h.mergeableState
  labels := Keep.decodeField_listed rfl (fun _ _ => decodeLabels_trim) h.labels
  head := Keep.requireField_listed rfl (fun content hmem => decodeHead_trim (hhead content hmem)) h.head
  base := Keep.requireField_listed rfl (fun content hmem => decodeBase_trim (hbase content hmem)) h.base

/-- What is kept of the fields of a record passes the checks that they passed. -/
theorem checkField_kept (h : ∀ field ∈ fields, shape.checkField field = .ok ())
    (hhead : ObjectAt "head" fields) (hbase : ObjectAt "base" fields) :
    ∀ field ∈ Keep.trimFields keptFields fields, shape.checkField field = .ok () := by
  refine Keep.checkField_trimFields h fun key inner content hlisted hmem => ?_
  have hchecked := h _ hmem
  rcases keptFields_only hlisted with ⟨rfl, rfl⟩ | ⟨rfl, rfl⟩ | ⟨rfl, rfl⟩
  · obtain ⟨labels, hlabels⟩ := Json.decode_of_check hchecked
    exact Json.check_of_decode (decodeLabels_trim hlabels)
  · obtain ⟨side, hside⟩ := Json.decode_of_check hchecked
    exact Json.check_of_decode (decodeHead_trim (hhead content hmem) hside)
  · obtain ⟨side, hside⟩ := Json.decode_of_check hchecked
    exact Json.check_of_decode (decodeBase_trim (hbase content hmem) hside)

theorem decode_trim {pull : PullRequest} (hhead : ObjectAt "head" fields) (hbase : ObjectAt "base" fields)
    (h : decode (.object fields) = .ok pull) :
    decode (trim (.object fields)) = .ok pull.kept := by
  obtain ⟨hfields, hholds⟩ := decode_object_iff.1 h
  rw [trim_object]
  exact decode_object_iff.2 ⟨checkField_kept hfields hhead hbase, hholds.trimFields hhead hbase⟩

/-- Whether a record is settled can be told from what is left of it. -/
theorem settle_kept (pull : PullRequest) : settle pull.kept = (settle pull).kept := by
  unfold settle kept
  split
  · rfl
  · rfl

/-- **Trimming keeps what a record is read from.** If the sides of a response are objects and it is read as
    a record, then what is kept of it is read as the same record, but without owner, repository, title,
    body and the label of the base. -/
theorem ofResponse_trim {pull : PullRequest} (hhead : ObjectAt "head" fields)
    (hbase : ObjectAt "base" fields) (h : ofResponse (.object fields) = .ok pull) :
    ofResponse (trim (.object fields)) = .ok
      { pull with owner := "", repo := "", title := "", body := none, base := { pull.base with label := none } } := by
  obtain ⟨found, hfound, rfl⟩ := map_eq_ok.1 h
  rw [ofResponse, decode_trim hhead hbase hfound]
  exact congrArg Except.ok (settle_kept found)

/-- A merged pull request with labels of both written forms, a base with a label, and more fields than
    are kept. -/
def mergedResponse : List (String × Json) := [
  ("base", .object [("label", .string "upstream:main"), ("ref", .string "main"),
    ("repo", .array [.string "polars-feedstock"])]),
  ("body", .string "Dropped"),
  ("closed_at", .string "2024-05-03T17:04:20Z"),
  ("head", .object [("label", .string "bot:patch-1"), ("ref", .string "patch-1"),
    ("repo", .object [("id", .number (.natural 7)), ("name", .string "polars-feedstock")]),
    ("sha", .string "0a1b")]),
  ("html_url", .string "https://platform/pulls/12"),
  ("id", .number (.natural 99)),
  ("labels", .array [.object [("color", .string "red"), ("name", .string "automerge")],
    .array [.string "bug"]]),
  ("mergeable_state", .object [("clean", .null)]),
  ("merged", .bool true),
  ("number", .number (.natural 12)),
  ("state", .string "closed"),
  ("title", .string "Dropped too"),
  ("user", .object [("login", .string "bot")])]

/-- The record that it is read as. -/
def mergedPull : PullRequest where
  id := 99
  number := 12
  htmlUrl := "https://platform/pulls/12"
  state := .merged
  title := "Dropped too"
  body := some "Dropped"
  closedAt := some { seconds := 1714755860 }
  merged := true
  mergeableState := some .clean
  labels := ["automerge", "bug"]
  head := { branch := "patch-1", label := some "bot:patch-1", repository := some "polars-feedstock" }
  base := { branch := "main", label := some "upstream:main", repository := some "polars-feedstock" }

theorem merged_response_trimmed :
    ObjectAt "head" mergedResponse ∧ ObjectAt "base" mergedResponse ∧
      ofResponse (.object mergedResponse) = .ok mergedPull ∧
      ofResponse (trim (.object mergedResponse)) = .ok
        { mergedPull with title := "", body := none, base := { mergedPull.base with label := none } } := by
  have hhead : ObjectAt "head" mergedResponse := by simp [ObjectAt, mergedResponse]
  have hbase : ObjectAt "base" mergedResponse := by simp [ObjectAt, mergedResponse]
  have hread : ofResponse (.object mergedResponse) = .ok mergedPull := by rfl
  exact ⟨hhead, hbase, hread, ofResponse_trim hhead hbase hread⟩

end PullRequest

end PullRequestBot
