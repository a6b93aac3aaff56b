import PullRequestBot.Hosting.Live
import PullRequestBot.Proofs.Hosting.PullRequest.Fields

set_option autoImplicit false

/-! # Reading the record of a pull request

A response that describes an open pull request (`Describes`) is read, whatever headers come with it, and
the record says of the state, the branches and the repository what the response says
(`readPullRequest_of_describes`). -/

namespace PullRequestBot

open Json (decodeField lookup lookup_cons requireField)
open Result (bind_eq_ok map_eq_ok)

/-! ## Trimming -/

namespace Keep

variable {key : String} {list : List (String × Keep)} {fields : List (String × Json)}

theorem lookup_trimFields (key : String) (list : List (String × Keep))
    (fields : List (String × Json)) :
    lookup key (trimFields list fields) =
      (list.lookup key).bind fun keep => (lookup key fields).map keep.trim := by
  induction fields with
  | nil =>
      cases list.lookup key with
      | none | some _ => rfl
  | cons field rest ih =>
      obtain ⟨k, v⟩ := field
      rw [trimFields, lookup_cons]
      by_cases heq : k = key
      · subst heq
        cases hlisted : list.lookup k with
        | none =>
            rw [hlisted] at ih
            exact ih
        | some keep => rw [lookup_cons, if_pos rfl, if_pos rfl]; rfl
      · rw [if_neg heq, ← ih]
        cases list.lookup k with
        | none => rfl
        | some keep => rw [lookup_cons, if_neg heq]

theorem mem_trimFields {field : String × Json} (h : field ∈ trimFields list fields) :
    ∃ keep value, list.lookup field.1 = some keep ∧ (field.1, value) ∈ fields ∧
      field.2 = keep.trim value := by
  induction fields with
  | nil => exact absurd h nofun
  | cons first rest ih =>
      obtain ⟨k, v⟩ := first
      rw [trimFields] at h
      split at h
      · next keep hlisted =>
          rcases List.mem_cons.1 h with rfl | h
          · exact ⟨keep, v, hlisted, List.mem_cons_self, rfl⟩
          · obtain ⟨keep, value, hlisted, hmem, hvalue⟩ := ih h
            exact ⟨keep, value, hlisted, List.mem_cons_of_mem _ hmem, hvalue⟩
      · obtain ⟨keep, value, hlisted, hmem, hvalue⟩ := ih h
        exact ⟨keep, value, hlisted, List.mem_cons_of_mem _ hmem, hvalue⟩

theorem mem_trimFields_of_mem {keep : Keep} {value : Json} (hlisted : list.lookup key = some keep)
    (h : (key, value) ∈ fields) : (key, keep.trim value) ∈ trimFields list fields := by
  induction fields with
  | nil => exact absurd h nofun
  | cons first rest ih =>
      obtain ⟨k, v⟩ := first
      rw [trimFields]
      rcases List.mem_cons.1 h with heq | h
      · cases heq
        rw [hlisted]
        exact List.mem_cons_self
      · cases list.lookup k with
        | none => exact ih h
        | some _ => exact List.mem_cons_of_mem _ (ih h)

end Keep

namespace PullRequest

/-! ## Sides -/

theorem decodeSide_branch {fields : List (String × Json)} {side : Side} {branch : String}
    (h : decodeSide (.object fields) = .ok side) (href : lookup "ref" fields = some (.string branch)) :
    side.branch = branch := by
  have hbranch := (decodeSide_object_iff.1 h).2.branch
  rw [Json.requireField_of_lookup href] at hbranch
  exact (Except.ok.inj hbranch).symm

theorem decodeSide_repository {fields repository : List (String × Json)} {side : Side} {name : String}
    (h : decodeSide (.object fields) = .ok side)
    (hrepo : lookup "repo" fields = some (.object repository))
    (hname : lookup "name" repository = some (.string name)) : side.repository = some name := by
  have hrepository := (decodeSide_object_iff.1 h).2.repository
  rw [Json.decodeField_of_lookup hrepo] at hrepository
  obtain ⟨found, hfound, hsome⟩ := map_eq_ok.1 hrepository
  obtain ⟨checked, hchecked, hread⟩ := bind_eq_ok.1 hfound
  obtain ⟨-, -, rfl⟩ := Json.Shape.decode_object_iff.1 hchecked
  rw [Json.requireField_of_lookup hname] at hread
  rw [← hsome, ← Except.ok.inj hread]

/-! ## Records -/

/-- Checked fields that have what a record must have hold a record. -/
theorem holds_of_checked {fields : List (String × Json)} {id number : UInt64} {url : String}
    (state : State) {head base : Json}
    (hchecked : ∀ field ∈ fields, shape.checkField field = .ok ())
    (hid : lookup "id" fields = some (.number (.natural id)))
    (hnumber : lookup "number" fields = some (.number (.natural number)))
    (hurl : lookup "html_url" fields = some (.string url))
    (hstate : lookup "state" fields = some (.string state.name))
    (hhead : lookup "head" fields = some head) (hbase : lookup "base" fields = some base) :
    ∃ pull, Holds fields pull ∧ pull.state = state ∧ decodeSide head = .ok pull.head ∧
      decodeSide base = .ok pull.base := by
  have hfield {α : Type} (key : String) (decode : Json.Decoder α) (default : α)
      (hlisted : shape.fields.find? (fun known => known.key == key) = some (.of key false decode)) :
      ∃ value, decodeField fields key decode default = .ok value :=
    Json.decodeField_of_checked hchecked hlisted default
  obtain ⟨owner, howner⟩ := hfield "owner" Json.decodeString "" rfl
  obtain ⟨repo, hrepo⟩ := hfield "repo" Json.decodeString "" rfl
  obtain ⟨etag, hetag⟩ := hfield "ETag" decodeText none rfl
  obtain ⟨lastModified, hlastModified⟩ := hfield "Last-Modified" decodeText none rfl
  obtain ⟨title, htitle⟩ := hfield "title" Json.decodeString "" rfl
  obtain ⟨body, hbody⟩ := hfield "body" decodeText none rfl
  obtain ⟨createdAt, hcreatedAt⟩ := hfield "created_at" (Json.decodeOptional decodeTime) none rfl
  obtain ⟨updatedAt, hupdatedAt⟩ := hfield "updated_at" (Json.decodeOptional decodeTime) none rfl
  obtain ⟨closedAt, hclosedAt⟩ := hfield "closed_at" (Json.decodeOptional decodeTime) none rfl
  obtain ⟨mergedAt, hmergedAt⟩ := hfield "merged_at" (Json.decodeOptional decodeTime) none rfl
  obtain ⟨merged, hmerged⟩ := hfield "merged" Json.decodeBool false rfl
  obtain ⟨mergeable, hmergeable⟩ := hfield "mergeable" (Json.decodeOptional Json.decodeBool) none rfl
  obtain ⟨mergeableState, hmergeableState⟩ :=
    hfield "mergeable_state" (Json.decodeOptional decodeMergeableState) none rfl
  obtain ⟨labels, hlabels⟩ := hfield "labels" (Json.decodeList (decodeName "Label")) [] rfl
  obtain ⟨headSide, hheadSide⟩ : ∃ side, decodeSide head = .ok side :=
    Json.decode_of_checked hchecked rfl hhead
  obtain ⟨baseSide, hbaseSide⟩ : ∃ side, decodeSide base = .ok side :=
    Json.decode_of_checked hchecked rfl hbase
  have hstateRead : decodeState (.string state.name) = .ok state := by
    cases state with
    | opened | closed | merged => rfl
  exact ⟨⟨owner, repo, etag, lastModified, id, number, url, state, title, body, createdAt, updatedAt,
      closedAt, mergedAt, merged, mergeable, mergeableState, labels, headSide, baseSide⟩,
    { owner := howner, repo := hrepo, etag := hetag, lastModified := hlastModified
      id := Json.requireField_of_lookup hid
      number := Json.requireField_of_lookup hnumber
      htmlUrl := Json.requireField_of_lookup hurl
      state := (Json.requireField_of_lookup hstate).trans hstateRead
      title := htitle, body := hbody, createdAt := hcreatedAt, updatedAt := hupdatedAt
      closedAt := hclosedAt, mergedAt := hmergedAt, merged := hmerged, mergeable := hmergeable
      mergeableState := hmergeableState, labels := hlabels
      head := (Json.requireField_of_lookup hhead).trans hheadSide
      base := (Json.requireField_of_lookup hbase).trans hbaseSide },
    rfl, hheadSide, hbaseSide⟩

/-! ## Responses -/

/-- The fields that are kept of a response, and what is kept of them. -/
def keptFields : List (String × Keep) :=
  match Keep.pullRequest with
  | .only list => list
  | .all => []

theorem trim_object (fields : List (String × Json)) :
    trim (.object fields) = .object (Keep.trimFields keptFields fields) := rfl

/-- The fields of a response describe an open pull request: it has an identity, it names its branches and
    the repository that it is for, and all that is kept of it is of its kind. -/
structure Describes (fields : List (String × Json)) (head base repository : String) : Prop where
  id : ∃ id, lookup "id" fields = some (.number (.natural id))
  number : ∃ number, lookup "number" fields = some (.number (.natural number))
  htmlUrl : ∃ url, lookup "html_url" fields = some (.string url)
  state : lookup "state" fields = some (.string "open")
  head : ∃ side, lookup "head" fields = some (.object side) ∧ lookup "ref" side = some (.string head)
  base : ∃ side repo, lookup "base" fields = some (.object side) ∧
    lookup "ref" side = some (.string base) ∧ lookup "repo" side = some (.object repo) ∧
    lookup "name" repo = some (.string repository)
  kept : ∀ field ∈ Keep.trimFields keptFields fields, shape.checkField field = .ok ()

/-- A field that a header is put into. -/
def IsHeader (key : String) : Prop :=
  key = "ETag" ∨ key = "Last-Modified"

instance (key : String) : Decidable (IsHeader key) :=
  inferInstanceAs (Decidable (_ ∨ _))

/-- Fields with some headers put in. -/
structure Headed (fields headed : List (String × Json)) : Prop where
  lookup_eq : ∀ key, ¬ IsHeader key → lookup key headed = lookup key fields
  mem : ∀ field ∈ headed, field ∈ fields ∨ ∃ text, IsHeader field.1 ∧ field.2 = .string text

theorem Headed.refl (fields : List (String × Json)) : Headed fields fields :=
  ⟨fun _ _ => rfl, fun _ => Or.inl⟩

theorem Headed.addHeader {fields headed : List (String × Json)} (h : Headed fields headed)
    (response : Http.Response) {key : String} (hkey : IsHeader key) :
    ∃ headed', Live.addHeader response key (.object headed) = .object headed' ∧
      Headed fields headed' := by
  unfold Live.addHeader
  cases response.header? key with
  | none => exact ⟨headed, rfl, h⟩
  | some text =>
      refine ⟨Json.insertField key (.string text) headed, rfl, fun other hother => ?_, fun field hmem => ?_⟩
      · have hne : other ≠ key := by
          rintro rfl
          exact hother hkey
        rw [Json.lookup_insertField_of_ne hne, h.lookup_eq other hother]
      · rcases Json.mem_insertField hmem with rfl | hmem
        · exact Or.inr ⟨text, hkey, rfl⟩
        · exact h.mem field hmem

/-- The headers of a response are of their kind. -/
theorem Headed.kept {fields headed : List (String × Json)} (h : Headed fields headed)
    (hkept : ∀ field ∈ Keep.trimFields keptFields fields, shape.checkField field = .ok ()) :
    ∀ field ∈ Keep.trimFields keptFields headed, shape.checkField field = .ok () := by
  intro field hmem
  obtain ⟨keep, value, hlisted, hfield, hvalue⟩ := Keep.mem_trimFields hmem
  rcases h.mem _ hfield with hfield | ⟨text, hkey, htext⟩
  · refine hkept field ?_
    have htrimmed := Keep.mem_trimFields_of_mem hlisted hfield
    rw [← hvalue] at htrimmed
    exact htrimmed
  · obtain ⟨key, kept⟩ := field
    obtain rfl : value = .string text := htext
    obtain rfl : kept = .string text := hvalue
    rcases hkey with rfl | rfl <;> rfl

theorem lookup_kept {fields : List (String × Json)} {key : String} {keep : Keep} {value : Json}
    (hlisted : keptFields.lookup key = some keep) (hvalue : lookup key fields = some value) :
    lookup key (Keep.trimFields keptFields fields) = some (keep.trim value) := by
  rw [Keep.lookup_trimFields, hlisted, hvalue]
  rfl

/-- A response that describes an open pull request is read as a record that says the same, whatever
    headers come with it. -/
theorem readPullRequest_of_describes {fields : List (String × Json)} {head base repository : String}
    (h : Describes fields head base repository) (response : Http.Response) :
    ∃ pull, Live.readPullRequest response (.object fields) = .ok pull ∧ pull.state = .opened ∧
      pull.head.branch = head ∧ pull.base.branch = base ∧ pull.base.repository = some repository := by
  obtain ⟨tagged, htagged, hheaded⟩ := (Headed.refl fields).addHeader response (Or.inl rfl)
  obtain ⟨headed, hdated, hheaded⟩ := hheaded.addHeader response (Or.inr rfl)
  obtain ⟨id, hid⟩ := h.id
  obtain ⟨number, hnumber⟩ := h.number
  obtain ⟨url, hurl⟩ := h.htmlUrl
  obtain ⟨side, hhead, href⟩ := h.head
  obtain ⟨side', repo, hbase, href', hrepo, hname⟩ := h.base
  have hchecked := hheaded.kept h.kept
  have hthere : ∀ {key : String} {keep : Keep} {value : Json}, ¬ IsHeader key →
      keptFields.lookup key = some keep → lookup key fields = some value →
      lookup key (Keep.trimFields keptFields headed) = some (keep.trim value) := by
    intro key keep value hkey hlisted hvalue
    exact lookup_kept hlisted ((hheaded.lookup_eq key hkey).trans hvalue)
  have hid' := hthere (by decide) rfl hid
  have hnumber' := hthere (by decide) rfl hnumber
  have hurl' := hthere (by decide) rfl hurl
  have hstate' := hthere (by decide) rfl h.state
  have hhead' := hthere (by decide) rfl hhead
  have hbase' := hthere (by decide) rfl hbase
  obtain ⟨pull, hholds, hopened, hheadSide, hbaseSide⟩ :=
    holds_of_checked .opened hchecked hid' hnumber' hurl' hstate' hhead' hbase'
  have hdecoded : decode (.object (Keep.trimFields keptFields headed)) = .ok pull :=
    decode_object_iff.2 ⟨hchecked, hholds⟩
  have hsettled : settle pull = pull := by
    rw [settle, hopened]
    rfl
  refine ⟨pull, ?_, hopened, ?_, ?_, ?_⟩
  · rw [Live.readPullRequest, htagged, hdated, trim_object, ofResponse, hdecoded]
    exact congrArg Except.ok hsettled
  · refine decodeSide_branch hheadSide ?_
    rw [Keep.lookup_trimFields, href]
    rfl
  · refine decodeSide_branch hbaseSide ?_
    rw [Keep.lookup_trimFields, href']
    rfl
  · have hrepo' : lookup "repo" (Keep.trimFields [("ref", .all), ("repo", Keep.repository)] side') =
        some (.object (Keep.trimFields [("name", .all)] repo)) := by
      rw [Keep.lookup_trimFields, hrepo]
      rfl
    refine decodeSide_repository hbaseSide hrepo' ?_
    rw [Keep.lookup_trimFields, hname]
    rfl

end PullRequest

end PullRequestBot
