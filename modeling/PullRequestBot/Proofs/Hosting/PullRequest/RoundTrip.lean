import PullRequestBot.Proofs.Calendar.Written
import PullRequestBot.Proofs.Hosting.PullRequest.Trimming
import PullRequestBot.Proofs.Json.Sorted

set_option autoImplicit false

/-! # A record is read back from its JSON

What is written of a record is read as the same record, in whatever order its fields are listed, and trimming
drops only what can be put back (`read_written`). Every field of a record is read from the one value that is
written of it, so it is enough to read that value; a record is put together from its fields by `Holds`. -/

namespace PullRequestBot.PullRequest

open Json (Decoder)
open Result (bind_eq_ok map_eq_ok)

variable {fields : List (String × Json)}

/-! ## Values of fields -/

theorem decodeText_ofOption (text : Option String) : decodeText (Json.ofOption text) = .ok text := by
  cases text with
  | none | some _ => rfl

/-- A value that is not written as null is read back if it is there. -/
theorem decodeOptional_optionalJson {α : Type} {decode : Decoder α} {encode : α → Json} {found : Option α}
    (hencode : ∀ value, encode value ≠ .null) (h : ∀ value ∈ found, decode (encode value) = .ok value) :
    Json.decodeOptional decode (optionalJson encode found) = .ok found := by
  cases found with
  | none => rfl
  | some value =>
      have hread := h value rfl
      show Json.decodeOptional decode (encode value) = _
      cases hjson : encode value with
      | null => exact absurd hjson (hencode value)
      | _ =>
          rw [hjson] at hread
          exact map_eq_ok.2 ⟨value, hread, rfl⟩

theorem decodeTime_timeJson {t : Timestamp} (h : Timestamp.read t.text = .ok t) :
    decodeTime (timeJson t) = .ok t := by
  simp only [timeJson, decodeTime, h]

theorem decodeState_name (state : State) : decodeState (.string state.name) = .ok state := by
  cases state with
  | _ => rfl

theorem decodeMergeableState_name (state : MergeableState) :
    decodeMergeableState (.string state.name) = .ok state := by
  cases state with
  | _ => rfl

theorem decodeName_nameJson (name text : String) : decodeName name (nameJson text) = .ok text := rfl

theorem decodeLabels_nameJson (labels : List String) :
    Json.decodeList (decodeName "Label") (.array (labels.map nameJson)) = .ok labels := by
  show (labels.map nameJson).mapM (decodeName "Label") = .ok labels
  induction labels with
  | nil => rfl
  | cons label rest ih =>
      rw [List.map_cons, List.mapM_cons, decodeName_nameJson]
      exact bind_eq_ok.2 ⟨label, rfl, bind_eq_ok.2 ⟨rest, ih, rfl⟩⟩

/-! ## Sides -/

/-- The fields that are written of a side. -/
def sideFields (side : Side) : List (String × Json) :=
  [("ref", .string side.branch)] ++
    (match side.label with
      | some label => [("label", .string label)]
      | none => []) ++
    [("repo", optionalJson nameJson side.repository)]

theorem sideFields_distinct (side : Side) : ((sideFields side).map Prod.fst).Nodup := by
  unfold sideFields
  cases side.label with
  | none | some _ => simp

theorem decodeRepository_optionalJson (repository : Option String) :
    decodeRepository (optionalJson nameJson repository) = .ok repository :=
  decodeOptional_optionalJson nofun fun _ _ => rfl

theorem holds_sideFields (side : Side) : Side.Holds (sideFields side) side := by
  obtain ⟨branch, label, repository⟩ := side
  cases label with
  | none | some _ => exact ⟨rfl, rfl, decodeRepository_optionalJson repository⟩

theorem checkField_sideFields (side : Side) :
    ∀ field ∈ sideFields side, sideShape.checkField field = .ok () := by
  have hrepository : sideShape.checkField ("repo", optionalJson nameJson side.repository) = .ok () :=
    Json.check_of_decode (decodeRepository_optionalJson side.repository)
  obtain ⟨branch, label, repository⟩ := side
  cases label with
  | none => exact List.forall_mem_cons.2 ⟨rfl, List.forall_mem_singleton.2 hrepository⟩
  | some _ =>
      exact List.forall_mem_cons.2 ⟨rfl, List.forall_mem_cons.2 ⟨rfl, List.forall_mem_singleton.2 hrepository⟩⟩

/-- A side is read back, however its fields are arranged. -/
theorem decodeSide_fields {side : Side} (h : fields.Perm (sideFields side)) :
    decodeSide (.object fields) = .ok side := by
  have hlookup := Json.lookup_perm (sideFields_distinct side) h
  have hholds := holds_sideFields side
  refine decodeSide_object_iff.2 ⟨fun field hmem => checkField_sideFields side field (h.mem_iff.1 hmem), ?_⟩
  exact ⟨(Json.requireField_congr (hlookup _)).trans hholds.branch,
    (Json.decodeField_congr (hlookup _)).trans hholds.label,
    (Json.decodeField_congr (hlookup _)).trans hholds.repository⟩

/-! ## Records -/

/-- The fields that are written of a record, with the given values for its sides. -/
def recordFields (pull : PullRequest) (head base : Json) : List (String × Json) := [
  ("owner", .string pull.owner),
  ("repo", .string pull.repo),
  ("ETag", Json.ofOption pull.etag),
  ("Last-Modified", Json.ofOption pull.lastModified),
  ("id", .number (.natural pull.id)),
  ("number", .number (.natural pull.number)),
  ("html_url", .string pull.htmlUrl),
  ("state", .string pull.state.name),
  ("title", .string pull.title),
  ("body", Json.ofOption pull.body),
  ("created_at", optionalJson timeJson pull.createdAt),
  ("updated_at", optionalJson timeJson pull.updatedAt),
  ("closed_at", optionalJson timeJson pull.closedAt),
  ("merged_at", optionalJson timeJson pull.mergedAt),
  ("merged", .bool pull.merged),
  ("mergeable", optionalJson .bool pull.mergeable),
  ("mergeable_state", optionalJson (fun s => .string s.name) pull.mergeableState),
  ("labels", .array (pull.labels.map nameJson)),
  ("head", head),
  ("base", base)]

theorem toJson_eq (pull : PullRequest) :
    pull.toJson = .object (recordFields pull pull.head.toJson pull.base.toJson) := rfl

theorem recordFields_distinct (pull : PullRequest) (head base : Json) :
    ((recordFields pull head base).map Prod.fst).Nodup := by
  show (["owner", "repo", "ETag", "Last-Modified", "id", "number", "html_url", "state", "title", "body",
    "created_at", "updated_at", "closed_at", "merged_at", "merged", "mergeable", "mergeable_state", "labels",
    "head", "base"]).Nodup
  decide

/-- The points in time of a record. -/
def times (pull : PullRequest) : List Timestamp :=
  [pull.createdAt, pull.updatedAt, pull.closedAt, pull.mergedAt].filterMap fun time => time

/-- The points in time of a record are read back from their texts. -/
def TimesReadBack (pull : PullRequest) : Prop :=
  ∀ t ∈ pull.times, Timestamp.read t.text = .ok t

theorem decodeOptional_time {found : Option Timestamp} (h : ∀ t ∈ found, Timestamp.read t.text = .ok t) :
    Json.decodeOptional decodeTime (optionalJson timeJson found) = .ok found :=
  decodeOptional_optionalJson nofun fun t ht => decodeTime_timeJson (h t ht)

theorem holds_recordFields {pull : PullRequest} {head base : Json} (htimes : TimesReadBack pull)
    (hhead : decodeSide head = .ok pull.head) (hbase : decodeSide base = .ok pull.base) :
    Holds (recordFields pull head base) pull where
  owner := rfl
  repo := rfl
  etag := decodeText_ofOption _
  lastModified := decodeText_ofOption _
  id := rfl
  number := rfl
  htmlUrl := rfl
  state := decodeState_name _
  title := rfl
  body := decodeText_ofOption _
  createdAt := decodeOptional_time fun t ht => htimes t (by simp_all [times])
  updatedAt := decodeOptional_time fun t ht => htimes t (by simp_all [times])
  closedAt := decodeOptional_time fun t ht => htimes t (by simp_all [times])
  mergedAt := decodeOptional_time fun t ht => htimes t (by simp_all [times])
  merged := rfl
  mergeable := decodeOptional_optionalJson nofun fun _ _ => rfl
  mergeableState := decodeOptional_optionalJson nofun fun state _ => decodeMergeableState_name state
  labels := decodeLabels_nameJson _
  head := hhead
  base := hbase

theorem checkField_recordFields {pull : PullRequest} {head base : Json} (htimes : TimesReadBack pull)
    (hhead : decodeSide head = .ok pull.head) (hbase : decodeSide base = .ok pull.base) :
    ∀ field ∈ recordFields pull head base, shape.checkField field = .ok () := by
  have hholds := holds_recordFields htimes hhead hbase
  simp only [recordFields, List.forall_mem_cons]
  exact ⟨rfl, rfl, Json.checkField_of_decode rfl hholds.etag, Json.checkField_of_decode rfl hholds.lastModified,
    rfl, rfl, rfl, Json.checkField_of_decode rfl hholds.state, rfl,
    Json.checkField_of_decode rfl hholds.body, Json.checkField_of_decode rfl hholds.createdAt,
    Json.checkField_of_decode rfl hholds.updatedAt, Json.checkField_of_decode rfl hholds.closedAt,
    Json.checkField_of_decode rfl hholds.mergedAt, rfl, Json.checkField_of_decode rfl hholds.mergeable,
    Json.checkField_of_decode rfl hholds.mergeableState, Json.checkField_of_decode rfl hholds.labels,
    Json.checkField_of_decode rfl hhead, Json.checkField_of_decode rfl hbase, nofun⟩

/-- A record is read back, however its fields are arranged. -/
theorem decode_recordFields {pull : PullRequest} {head base : Json} (htimes : TimesReadBack pull)
    (hhead : decodeSide head = .ok pull.head) (hbase : decodeSide base = .ok pull.base)
    (h : fields.Perm (recordFields pull head base)) : decode (.object fields) = .ok pull := by
  have hchecked := checkField_recordFields htimes hhead hbase
  have hlookup := Json.lookup_perm (recordFields_distinct pull head base) h
  exact decode_object_iff.2 ⟨fun field hmem => hchecked field (h.mem_iff.1 hmem),
    (holds_recordFields htimes hhead hbase).congr hlookup⟩

/-! ## Written records -/

theorem sorted_ofOption (text : Option String) : (Json.ofOption text).sorted = Json.ofOption text := by
  cases text with
  | none | some _ => rfl

theorem sorted_optionalJson {α : Type} {encode : α → Json} (h : ∀ value, (encode value).sorted = encode value)
    (found : Option α) : (optionalJson encode found).sorted = optionalJson encode found := by
  cases found with
  | none => rfl
  | some value => exact h value

theorem sorted_nameJson (name : String) : (nameJson name).sorted = nameJson name := rfl

theorem sortedFields_sideFields (side : Side) : Json.sortedFields (sideFields side) = sideFields side := by
  have hrepository := sorted_optionalJson sorted_nameJson side.repository
  obtain ⟨branch, label, repository⟩ := side
  cases label with
  | none | some _ =>
      simp only [sideFields, List.cons_append, List.nil_append, Json.sortedFields, hrepository]
      rfl

theorem sortedFields_recordFields (pull : PullRequest) (head base : Json) :
    Json.sortedFields (recordFields pull head base) = recordFields pull head.sorted base.sorted := by
  have htime (time : Option Timestamp) : (optionalJson timeJson time).sorted = optionalJson timeJson time :=
    sorted_optionalJson (fun _ => rfl) time
  have hmergeable : (optionalJson Json.bool pull.mergeable).sorted = optionalJson .bool pull.mergeable :=
    sorted_optionalJson (fun _ => rfl) _
  have hstate : (optionalJson (fun s : MergeableState => .string s.name) pull.mergeableState).sorted =
      optionalJson (fun s => .string s.name) pull.mergeableState :=
    sorted_optionalJson (fun _ => rfl) _
  have hlabels : (pull.labels.map nameJson).map Json.sorted = pull.labels.map nameJson := by
    rw [List.map_map]
    exact List.map_congr_left fun name _ => sorted_nameJson name
  simp only [recordFields, Json.sortedFields, sorted_ofOption, htime, hmergeable, hstate, Json.sorted,
    Json.sortedItems_eq_map, hlabels]

/-- What a record is written as: its fields in their order, or in the order of a value. -/
def written (pull : PullRequest) : List Json :=
  [pull.toJson, pull.toJson.sorted]

/-- A side is written as an object of its fields. -/
theorem side_sorted (side : Side) :
    ∃ fields, side.toJson.sorted = .object fields ∧ fields.Perm (sideFields side) := by
  have hsorted : side.toJson.sorted = Json.ofFields (sideFields side) :=
    congrArg Json.ofFields (sortedFields_sideFields side)
  rw [hsorted]
  exact Json.ofFields_perm (sideFields_distinct side)

/-- A record is written as an object of its fields, and so are its sides. -/
theorem fields_of_written {pull : PullRequest} {value : Json} (h : value ∈ pull.written) :
    ∃ fields head base, value = .object fields ∧
      fields.Perm (recordFields pull (.object head) (.object base)) ∧
      head.Perm (sideFields pull.head) ∧ base.Perm (sideFields pull.base) := by
  have hcases : value = pull.toJson ∨ value = pull.toJson.sorted := by
    simpa [written] using h
  rcases hcases with rfl | rfl
  · exact ⟨_, _, _, toJson_eq pull, List.Perm.refl _, List.Perm.refl _, List.Perm.refl _⟩
  · obtain ⟨head, hhead, hheadPerm⟩ := side_sorted pull.head
    obtain ⟨base, hbase, hbasePerm⟩ := side_sorted pull.base
    have hsorted : pull.toJson.sorted = Json.ofFields (recordFields pull (.object head) (.object base)) := by
      rw [← hhead, ← hbase, ← sortedFields_recordFields, toJson_eq]
      rfl
    obtain ⟨fields, hfields, hperm⟩ :=
      Json.ofFields_perm (recordFields_distinct pull (.object head) (.object base))
    exact ⟨fields, head, base, hsorted.trans hfields, hperm, hheadPerm, hbasePerm⟩

theorem decode_written {pull : PullRequest} {value : Json} (htimes : TimesReadBack pull)
    (h : value ∈ pull.written) : decode value = .ok pull := by
  obtain ⟨fields, head, base, rfl, hfields, hhead, hbase⟩ := fields_of_written h
  exact decode_recordFields htimes (decodeSide_fields hhead) (decodeSide_fields hbase) hfields

/-- Trimming what is written of a record leaves what is kept of it. -/
theorem decode_trim_written {pull : PullRequest} {value : Json} (htimes : TimesReadBack pull)
    (h : value ∈ pull.written) : decode (trim value) = .ok pull.kept := by
  have hread := decode_written htimes h
  obtain ⟨fields, head, base, rfl, hfields, -, -⟩ := fields_of_written h
  refine decode_trim (fun content hmem => ⟨head, ?_⟩) (fun content hmem => ⟨base, ?_⟩) hread
  · simpa [recordFields] using hfields.mem_iff.1 hmem
  · simpa [recordFields] using hfields.mem_iff.1 hmem

/-! ## Settled records -/

theorem settle_of_not {pull : PullRequest} (h : ¬ (pull.state = .closed ∧ pull.merged = true)) :
    settle pull = pull :=
  if_neg h

/-- A settled record is not one that has to be settled. -/
theorem not_closed_of_settle (pull : PullRequest) :
    ¬ ((settle pull).state = .closed ∧ (settle pull).merged = true) := by
  unfold settle
  split
  · exact fun h => absurd h.1 nofun
  · next h => exact h

theorem times_settle (pull : PullRequest) : (settle pull).times = pull.times := by
  unfold settle
  split
  · rfl
  · rfl

theorem decodeOptional_some {α : Type} {decode : Decoder α} {value : Json} {found : α}
    (h : Json.decodeOptional decode value = .ok (some found)) : decode value = .ok found := by
  cases value with
  | null => exact absurd h nofun
  | _ =>
      obtain ⟨middle, hmiddle, hsome⟩ := map_eq_ok.1 h
      rwa [Option.some.inj hsome] at hmiddle

theorem decodeTime_ok {value : Json} {t : Timestamp} (h : decodeTime value = .ok t) :
    ∃ text, Timestamp.read text = .ok t := by
  cases value with
  | string text =>
      rw [decodeTime] at h
      split at h
      · next found hread => exact ⟨text, by rw [hread, Except.ok.inj h]⟩
      · exact absurd h nofun
  | _ => exact absurd h nofun

/-- A point in time that was read is read back from its own text. -/
theorem readsBack_of_decodeField {key : String} {found : Option Timestamp}
    (h : Json.decodeField fields key (Json.decodeOptional decodeTime) none = .ok found) :
    ∀ t ∈ found, Timestamp.read t.text = .ok t := by
  rintro t rfl
  cases hthere : Json.lookup key fields with
  | none =>
      rw [Json.decodeField_of_missing hthere] at h
      exact absurd h nofun
  | some value =>
      rw [Json.decodeField_of_lookup hthere] at h
      obtain ⟨text, htext⟩ := decodeTime_ok (decodeOptional_some h)
      exact Timestamp.read_text (Timestamp.tells_of_read htext)

/-- The points in time of a record that was read are read back. -/
theorem timesReadBack_of_decode {pull : PullRequest} {value : Json} (h : decode value = .ok pull) :
    TimesReadBack pull := by
  obtain ⟨fields, -, hfields⟩ := bind_eq_ok.1 h
  have hholds := ofFields_iff.1 hfields
  intro t ht
  obtain ⟨found, hfound, rfl⟩ := List.mem_filterMap.1 ht
  simp only [List.mem_cons, List.not_mem_nil, or_false] at hfound
  rcases hfound with hfound | hfound | hfound | hfound
  · exact readsBack_of_decodeField hholds.createdAt t hfound.symm
  · exact readsBack_of_decodeField hholds.updatedAt t hfound.symm
  · exact readsBack_of_decodeField hholds.closedAt t hfound.symm
  · exact readsBack_of_decodeField hholds.mergedAt t hfound.symm

/-- What trimming drops of a record without a label on its base is its repository and its text. -/
theorem kept_restored {pull : PullRequest} {body : String} (hlabel : pull.base.label = none)
    (hbody : pull.body = some body) :
    (pull.kept.inRepository pull.owner pull.repo).withText pull.title body = pull := by
  have hbase : { pull.base with label := none } = pull.base := by
    rw [← hlabel]
  rw [kept, inRepository, withText, ← hbody, hbase]

/-- **A record is read back from what is written of it.** It is the same record as it was kept, and the same
    as a response unless it is closed with the merged flag, when it becomes a merged one. If nothing of its
    base has a label and it has a body, then it can be put together again from what trimming leaves. A record
    that came from a response is always read back as it is. -/
theorem read_written :
    (∀ (pull : PullRequest), TimesReadBack pull → ∀ value ∈ pull.written,
      decode value = .ok pull ∧
      (pull.state = .closed ∧ pull.merged = true →
        ofResponse value = .ok { pull with state := .merged }) ∧
      (¬ (pull.state = .closed ∧ pull.merged = true) → ofResponse value = .ok pull) ∧
      (¬ (pull.state = .closed ∧ pull.merged = true) → pull.base.label = none →
        ∀ body, pull.body = some body →
          (ofResponse (trim value)).map
            (fun found => (found.inRepository pull.owner pull.repo).withText pull.title body) = .ok pull)) ∧
    (∀ (response : Json) (pull : PullRequest), ofResponse response = .ok pull →
      ∀ value ∈ pull.written, decode value = .ok pull ∧ ofResponse value = .ok pull) := by
  refine ⟨fun pull htimes value hvalue => ?_, fun response pull hresponse value hvalue => ?_⟩
  · have hread := decode_written htimes hvalue
    have hsettled : ofResponse value = .ok (settle pull) := map_eq_ok.2 ⟨pull, hread, rfl⟩
    refine ⟨hread, fun hclosed => ?_, fun hnot => ?_, fun hnot hlabel body hbody => ?_⟩
    · rw [hsettled, settle, if_pos hclosed]
    · rw [hsettled, settle_of_not hnot]
    · have htrimmed : ofResponse (trim value) = .ok pull.kept := by
        refine map_eq_ok.2 ⟨_, decode_trim_written htimes hvalue, ?_⟩
        rw [settle_kept, settle_of_not hnot]
      exact map_eq_ok.2 ⟨_, htrimmed, kept_restored hlabel hbody⟩
  · -- a record that was read has no other points in time than such that are read back
    obtain ⟨found, hfound, rfl⟩ := map_eq_ok.1 hresponse
    have htimes : TimesReadBack (settle found) := by
      unfold TimesReadBack
      rw [times_settle]
      exact timesReadBack_of_decode hfound
    have hread := decode_written htimes hvalue
    exact ⟨hread, map_eq_ok.2 ⟨_, hread, settle_of_not (not_closed_of_settle found)⟩⟩

/-- A record with a leap second, a year of five digits, and a merged flag that its state does not tell. -/
def longRecord : PullRequest where
  owner := "conda-forge"
  repo := "polars-feedstock"
  etag := some "\"d41d8\""
  id := 99
  number := 12
  htmlUrl := "https://platform/pulls/12"
  state := .opened
  title := "polars v1.0"
  body := some "An \"update\"."
  createdAt := some { seconds := 1483228799, nanoseconds := 1500000000 }
  updatedAt := some { seconds := 253402300800 }
  merged := true
  mergeableState := some .hasHooks
  labels := ["automerge", "bug"]
  head := { branch := "patch-1", label := some "bot:patch-1", repository := some "polars-feedstock" }
  base := { branch := "main" }

theorem longRecord_read_written :
    TimesReadBack longRecord ∧ longRecord.toJson.sorted ∈ longRecord.written ∧
      decode longRecord.toJson.sorted = .ok longRecord ∧
      ofResponse longRecord.toJson.sorted = .ok longRecord ∧
      (ofResponse (trim longRecord.toJson.sorted)).map (fun found =>
        (found.inRepository "conda-forge" "polars-feedstock").withText "polars v1.0" "An \"update\".") =
          .ok longRecord := by
  have htimes : TimesReadBack longRecord := by
    intro t ht
    have hcases : t = { seconds := 1483228799, nanoseconds := 1500000000 } ∨ t = { seconds := 253402300800 } := by
      simpa [times, longRecord] using ht
    rcases hcases with rfl | rfl
    · exact Timestamp.read_text ⟨by decide, by decide, by decide, by decide⟩
    · exact Timestamp.read_text ⟨by decide, by decide, by decide, by decide⟩
  have hwritten : longRecord.toJson.sorted ∈ longRecord.written := by simp [written]
  obtain ⟨hread, -, hresponse, htrimmed⟩ := read_written.1 longRecord htimes _ hwritten
  have hopen : ¬ (longRecord.state = .closed ∧ longRecord.merged = true) := by decide
  exact ⟨htimes, hwritten, hread, hresponse hopen, htrimmed hopen rfl _ rfl⟩

end PullRequestBot.PullRequest
