import PullRequestBot.Proofs.Git.RunnerSecrecy
import PullRequestBot.Proofs.Hosting.Posting
import PullRequestBot.Proofs.Hosting.PullRequest.Trimming

set_option autoImplicit false

/-! # The record of a pull request that was opened

A record is put together from four sources: the arguments of the operation, the headers of the response, its
body, and what the arguments replace. `TellsOf` says which source each field comes from, and
`record_of_opened` that it is so whenever a pull request is opened.

The headers are put into the body before it is trimmed and read, so the record is read from fields of which
all but two are those of the body (`Headed`), and these two are a header's or the body's own
(`lookup_withHeader`). -/

namespace PullRequestBot

open Json (decodeField lookup requireField)
open Result (bind_eq_ok map_eq_ok)

namespace PullRequest

variable {response : Http.Response} {fields : List (String × Json)} {key : String}

/-! ## Headers in a body -/

/-- The fields of a body with a header put in, where it can be read. -/
def withHeader (response : Http.Response) (key : String) (fields : List (String × Json)) :
    List (String × Json) :=
  match response.header? key with
  | some text => Json.insertField key (.string text) fields
  | none => fields

theorem addHeader_object (response : Http.Response) (key : String) (fields : List (String × Json)) :
    Live.addHeader response key (.object fields) = .object (withHeader response key fields) := by
  unfold Live.addHeader withHeader
  cases response.header? key with
  | none | some _ => rfl

theorem lookup_withHeader_of_ne {other : String} (h : other ≠ key) :
    lookup other (withHeader response key fields) = lookup other fields := by
  unfold withHeader
  cases response.header? key with
  | none => rfl
  | some text => exact Json.lookup_insertField_of_ne h _ _

/-- A header that can be read stands in place of what the body has under its name. -/
theorem lookup_withHeader :
    lookup key (withHeader response key fields) =
      ((response.header? key).map Json.string).or (lookup key fields) := by
  unfold withHeader
  cases response.header? key with
  | none => rfl
  | some text => exact Json.lookup_insertField_self _ _ _

/-- The fields of a body with both headers put in. -/
def headed (response : Http.Response) (fields : List (String × Json)) : List (String × Json) :=
  withHeader response "Last-Modified" (withHeader response "ETag" fields)

theorem lookup_headed (hkey : IsHeader key) :
    lookup key (headed response fields) =
      ((response.header? key).map Json.string).or (lookup key fields) := by
  rcases hkey with rfl | rfl
  · rw [headed, lookup_withHeader_of_ne (by decide), lookup_withHeader]
  · rw [headed, lookup_withHeader, lookup_withHeader_of_ne (by decide)]

theorem headed_headed (response : Http.Response) (fields : List (String × Json)) :
    Headed fields (headed response fields) := by
  obtain ⟨tagged, htagged, hheaded⟩ := (Headed.refl fields).addHeader response (Or.inl rfl)
  obtain ⟨dated, hdated, hheaded⟩ := hheaded.addHeader response (Or.inr rfl)
  rw [addHeader_object] at htagged hdated
  obtain rfl := Json.object.inj htagged
  obtain rfl := Json.object.inj hdated
  exact hheaded

/-- Putting headers in makes no side anything but an object. -/
theorem Headed.objectAt {headed : List (String × Json)} (h : Headed fields headed)
    (hkey : ¬ IsHeader key) (hobject : ObjectAt key fields) : ObjectAt key headed := by
  intro content hmem
  rcases h.mem _ hmem with hmem | ⟨text, hheader, -⟩
  · exact hobject content hmem
  · exact absurd hheader hkey

/-- Fields with headers pass their checks if they do without. -/
theorem Headed.checked {headed : List (String × Json)} (h : Headed fields headed)
    (hchecked : ∀ field ∈ fields, shape.checkField field = .ok ()) :
    ∀ field ∈ headed, shape.checkField field = .ok () := by
  intro field hmem
  obtain ⟨key, content⟩ := field
  rcases h.mem _ hmem with hmem | ⟨text, hheader, rfl⟩
  · exact hchecked _ hmem
  · rcases hheader with rfl | rfl <;> rfl

/-! ## Settling -/

theorem settle_eq (pull : PullRequest) : settle pull = { pull with state := (settle pull).state } := by
  unfold settle
  split <;> rfl

theorem state_settle (pull : PullRequest) :
    (settle pull).state = if pull.state = .closed ∧ pull.merged = true then .merged else pull.state := by
  unfold settle
  split <;> rfl

/-! ## Where the fields of the record come from -/

/-- The text that a body has under a key. -/
def textAt (key : String) (fields : List (String × Json)) : Option String :=
  (lookup key fields).bind Json.string?

/-- A body with this state is that of a merged pull request: the state says so, or it is closed and the
    merged flag is set. -/
def SaysMerged (fields : List (String × Json)) (state : State) : Prop :=
  state = .merged ∨ state = .closed ∧ lookup "merged" fields = some (.bool true)

/-- Where the fields of the record come from: owner, repository, title and body are the arguments; entity tag
    and modification date are the headers, or else the texts in the body; the state is that of the body,
    where closed and merged is merged; the base has no label; and the rest is as the body is read, where it
    can be read untrimmed. -/
structure TellsOf (response : Http.Response) (fields : List (String × Json))
    (owner repo title body : String) (record : PullRequest) : Prop where
  others : ∀ untrimmed, decode (.object fields) = .ok untrimmed →
    record = { untrimmed with
      owner := owner, repo := repo, title := title, body := some body
      etag := record.etag, lastModified := record.lastModified, state := record.state
      base := { untrimmed.base with label := none } }
  owner : record.owner = owner
  repo : record.repo = repo
  title : record.title = title
  body : record.body = some body
  etag : record.etag = (response.header? "ETag").or (textAt "ETag" fields)
  lastModified : record.lastModified = (response.header? "Last-Modified").or (textAt "Last-Modified" fields)
  state : ∃ content state, lookup "state" fields = some content ∧ decodeState content = .ok state ∧
    (SaysMerged fields state → record.state = .merged) ∧ (¬ SaysMerged fields state → record.state = state)
  baseLabel : record.base.label = none

/-- A text that may be null is a header, if it can be read, or else what the body has. -/
theorem text_of_headed {text : Option String} (hkey : IsHeader key)
    (h : decodeField (headed response fields) key decodeText none = .ok text) :
    text = (response.header? key).or (textAt key fields) := by
  unfold textAt
  rw [decodeField, lookup_headed hkey] at h
  cases hheader : response.header? key with
  | some header =>
      rw [hheader] at h
      exact (Except.ok.inj h).symm
  | none =>
      rw [hheader] at h
      cases hthere : lookup key fields with
      | none =>
          rw [hthere] at h
          exact (Except.ok.inj h).symm
      | some content =>
          rw [hthere] at h
          cases content with
          | null | string _ => exact (Except.ok.inj h).symm
          | _ => simp [decodeText, Json.decodeOptional, Json.decodeString, Json.mismatch, Except.map] at h

theorem decodeBool_iff {value : Json} {b : Bool} : Json.decodeBool value = .ok b ↔ value = .bool b := by
  cases value with
  | bool c => simp [Json.decodeBool]
  | _ => simp [Json.decodeBool, Json.mismatch]

theorem merged_iff {merged : Bool}
    (h : decodeField fields "merged" Json.decodeBool false = .ok merged) :
    merged = true ↔ lookup "merged" fields = some (.bool true) := by
  rw [decodeField] at h
  cases hthere : lookup "merged" fields with
  | none =>
      rw [hthere] at h
      obtain rfl := Except.ok.inj h
      simp
  | some content =>
      rw [hthere] at h
      rw [decodeBool_iff.1 h, Option.some.injEq, Json.bool.injEq]

/-- The base that is read from what is kept has no label. -/
theorem label_of_trimmed {side : Side} (hbase : ObjectAt "base" fields)
    (h : requireField (Keep.trimFields keptFields fields) "base" decodeSide = .ok side) :
    side.label = none := by
  obtain ⟨kept, hkept, hside⟩ := Json.lookup_of_requireField h
  rw [Keep.lookup_trimFields] at hkept
  obtain ⟨content, hcontent, rfl⟩ := Option.map_eq_some_iff.1 hkept
  obtain ⟨inner, rfl⟩ := hbase content (Json.mem_of_lookup hcontent)
  have hlabel := (decodeSide_object_iff.1 hside).2.label
  have hnone : decodeField (Keep.trimFields baseFields inner) "label"
      (Json.decodeOptional Json.decodeString) none = .ok none := Keep.decodeField_unlisted rfl
  exact Except.ok.inj (hlabel.symm.trans hnone)

/-- Fields with headers are read as before, but for the two texts that the headers are put in for. -/
theorem decode_headed {untrimmed : PullRequest} {etag lastModified : Option String}
    (h : decode (.object fields) = .ok untrimmed)
    (hetag : decodeField (headed response fields) "ETag" decodeText none = .ok etag)
    (hlastModified : decodeField (headed response fields) "Last-Modified" decodeText none = .ok lastModified) :
    decode (.object (headed response fields)) =
      .ok { untrimmed with etag := etag, lastModified := lastModified } := by
  obtain ⟨hchecked, hholds⟩ := decode_object_iff.1 h
  have hheaded := headed_headed response fields
  have hsame : ∀ {key : String}, ¬ IsHeader key →
      lookup key (headed response fields) = lookup key fields := fun hkey => hheaded.lookup_eq _ hkey
  exact decode_object_iff.2 ⟨hheaded.checked hchecked,
    { owner := (Json.decodeField_congr (hsame (by decide))).trans hholds.owner
      repo := (Json.decodeField_congr (hsame (by decide))).trans hholds.repo
      etag := hetag
      lastModified := hlastModified
      id := (Json.requireField_congr (hsame (by decide))).trans hholds.id
      number := (Json.requireField_congr (hsame (by decide))).trans hholds.number
      htmlUrl := (Json.requireField_congr (hsame (by decide))).trans hholds.htmlUrl
      state := (Json.requireField_congr (hsame (by decide))).trans hholds.state
      title := (Json.decodeField_congr (hsame (by decide))).trans hholds.title
      body := (Json.decodeField_congr (hsame (by decide))).trans hholds.body
      createdAt := (Json.decodeField_congr (hsame (by decide))).trans hholds.createdAt
      updatedAt := (Json.decodeField_congr (hsame (by decide))).trans hholds.updatedAt
      closedAt := (Json.decodeField_congr (hsame (by decide))).trans hholds.closedAt
      mergedAt := (Json.decodeField_congr (hsame (by decide))).trans hholds.mergedAt
      merged := (Json.decodeField_congr (hsame (by decide))).trans hholds.merged
      mergeable := (Json.decodeField_congr (hsame (by decide))).trans hholds.mergeable
      mergeableState := (Json.decodeField_congr (hsame (by decide))).trans hholds.mergeableState
      labels := (Json.decodeField_congr (hsame (by decide))).trans hholds.labels
      head := (Json.requireField_congr (hsame (by decide))).trans hholds.head
      base := (Json.requireField_congr (hsame (by decide))).trans hholds.base }⟩

/-- **The record that is read of a response**, and made one of the repository with the given texts, has its
    fields from where they are said to come from. -/
theorem tellsOf_of_readPullRequest {owner repo title body : String} {read : PullRequest}
    (hhead : ObjectAt "head" fields) (hbase : ObjectAt "base" fields)
    (h : Live.readPullRequest response (.object fields) = .ok read) :
    TellsOf response fields owner repo title body ((read.inRepository owner repo).withText title body) := by
  have hheaded := headed_headed response fields
  rw [Live.readPullRequest, addHeader_object, addHeader_object, ← headed] at h
  obtain ⟨found, hfound, rfl⟩ := map_eq_ok.1 h
  rw [trim_object] at hfound
  have hholds := (decode_object_iff.1 hfound).2
  have hetag : decodeField (headed response fields) "ETag" decodeText none = .ok found.etag :=
    (Json.decodeField_congr (Keep.lookup_whole rfl)).symm.trans hholds.etag
  have hlastModified : decodeField (headed response fields) "Last-Modified" decodeText none =
      .ok found.lastModified :=
    (Json.decodeField_congr (Keep.lookup_whole rfl)).symm.trans hholds.lastModified
  have hmerged : decodeField fields "merged" Json.decodeBool false = .ok found.merged := by
    rw [← hholds.merged]
    refine Json.decodeField_congr ?_
    rw [Keep.lookup_whole rfl, hheaded.lookup_eq _ (by decide)]
  obtain ⟨content, hcontent, hstate⟩ : ∃ content, lookup "state" fields = some content ∧
      decodeState content = .ok found.state := by
    refine Json.lookup_of_requireField ?_
    rw [← hholds.state]
    refine Json.requireField_congr ?_
    rw [Keep.lookup_whole rfl, hheaded.lookup_eq _ (by decide)]
  have hsettled := settle_eq found
  constructor
  case owner | repo | title | body => rfl
  case etag =>
    have hkept : (settle found).etag = found.etag := by rw [hsettled]
    exact hkept.trans (text_of_headed (Or.inl rfl) hetag)
  case lastModified =>
    have hkept : (settle found).lastModified = found.lastModified := by rw [hsettled]
    exact hkept.trans (text_of_headed (Or.inr rfl) hlastModified)
  case state =>
    refine ⟨content, found.state, hcontent, hstate, ?_, ?_⟩
    · intro hsays
      show (settle found).state = .merged
      rw [state_settle]
      split
      · rfl
      · next hnot =>
        rcases hsays with hstate | ⟨hclosed, hflag⟩
        · exact hstate
        · exact absurd ⟨hclosed, (merged_iff hmerged).2 hflag⟩ hnot
    · intro hsays
      show (settle found).state = found.state
      rw [state_settle, if_neg]
      rintro ⟨hclosed, hflag⟩
      exact hsays (Or.inr ⟨hclosed, (merged_iff hmerged).1 hflag⟩)
  case baseLabel =>
    show (settle found).base.label = none
    rw [hsettled]
    exact label_of_trimmed (hheaded.objectAt (by decide) hbase) hholds.base
  case others =>
    intro untrimmed huntrimmed
    have hread := decode_trim (hheaded.objectAt (by decide) hhead) (hheaded.objectAt (by decide) hbase)
      (decode_headed huntrimmed hetag hlastModified)
    rw [trim_object] at hread
    have hkept := Except.ok.inj (hfound.symm.trans hread)
    rw [hsettled]
    exact congrArg (fun kept : PullRequest =>
      (inRepository { kept with state := (settle found).state } owner repo).withText title body) hkept

end PullRequest

namespace Live

variable {live : Live} {owner name base head title body login : String}

/-- A call with a response was sent, and that is its answer. -/
theorem Sent.of_received {call : Call} {said : List Said} {received : Received}
    (h : live.Sent call said (.ok received)) :
    ∃ request, said = [⟨.send request live.timeout, .ok received.response⟩] ∧
      request.method = call.method ∧ request.body = call.body := by
  generalize hreply : (.ok received : Reply) = reply at h
  cases h with
  | unbuilt _ => exact absurd hreply nofun
  | @answered request answer hbuilt =>
      rcases answer with (cause | _) | response
      · exact absurd hreply nofun
      · exact absurd hreply nofun
      · obtain rfl := Except.ok.inj hreply
        exact ⟨request, rfl, request_eq_ok hbuilt⟩

/-- The pull request that a response tells of is read from its body. -/
theorem pullIn_eq_ok {received : Received} {record : PullRequest}
    (h : pullIn owner name title body received = .ok record) :
    ∃ value read, bodyJson received = .ok value ∧ readPullRequest received.response value = .ok read ∧
      record = (read.inRepository owner name).withText title body := by
  rw [pullIn, if_neg (Decidable.not_not.2 (status_of_pullIn h))] at h
  obtain ⟨value, hvalue, h⟩ := bind_eq_ok.1 h
  refine ⟨value, ?_⟩
  cases hread : readPullRequest received.response value with
  | error failure =>
      rw [hread] at h
      exact absurd h nofun
  | ok read =>
      rw [hread] at h
      exact ⟨read, jsonIn_eq_ok.1 hvalue, rfl, (Except.ok.inj h).symm⟩

theorem bodyJson_eq_ok {received : Received} {value : Json} :
    bodyJson received = .ok value ↔
      (Text.Utf8.decode received.response.body).bind Json.read = some value := by
  unfold bodyJson
  split
  · next found hfound => rw [hfound, Except.ok.injEq, Option.some.injEq]
  · next hnone => rw [hnone]; exact iff_of_false nofun nofun

/-- What is known of the pull request that was opened: the last request was the post, it was answered with
    the status of something created, and the record tells of the answer, if its sides are objects. -/
def Opened (live : Live) (owner name base head title body : String) (sent : List Said)
    (record : PullRequest) : Prop :=
  ∃ request response, sent.getLast? = some ⟨.send request live.timeout, .ok response⟩ ∧
    request.method = .post ∧
    (∃ login, request.body = (askForPull owner name base head title body login).body) ∧
    response.status = 201 ∧
    ∀ fields, (Text.Utf8.decode response.body).bind Json.read = some (.object fields) →
      PullRequest.ObjectAt "head" fields → PullRequest.ObjectAt "base" fields →
      PullRequest.TellsOf response fields owner name title body record

/-- Opening a pull request with a login that is known. -/
theorem opened_of_openPullRequest {said : List Said} {record : PullRequest}
    (h : (live.openPullRequest owner name base head title body login).run.Leads said (.ok record)) :
    Opened live owner name base head title body (sent said) record := by
  obtain ⟨reply, hsent, hjudged⟩ := live.judges_openPullRequest owner name base head title body login said _ h
  cases reply with
  | error failure => exact absurd hjudged nofun
  | ok received =>
      obtain ⟨request, hsaid, hmethod, hbody⟩ := hsent.of_received
      have hpull : pullIn owner name title body received = .ok record := hjudged.symm
      obtain ⟨value, read, hvalue, hread, rfl⟩ := pullIn_eq_ok hpull
      refine ⟨request, received.response, congrArg List.getLast? hsaid, hmethod, ⟨login, hbody⟩,
        status_of_pullIn hpull, fun fields hfields hhead hbase => ?_⟩
      obtain rfl := Option.some.inj ((bodyJson_eq_ok.1 hvalue).symm.trans hfields)
      exact PullRequest.tellsOf_of_readPullRequest hhead hbase hread

/-- What was said before the last request does not matter. -/
theorem Opened.of_later {earlier later : List Said} {record : PullRequest}
    (h : Opened live owner name base head title body later record) :
    Opened live owner name base head title body (earlier ++ later) record := by
  obtain ⟨request, response, hlast, hrest⟩ := h
  refine ⟨request, response, ?_, hrest⟩
  rw [List.getLast?_append, hlast, Option.some_or]

/-- **The record of a pull request that was opened** has its owner, repository, title and body from what was
    asked for, whatever the response says; its entity tag and modification date from the headers of the
    response, where they can be read, and from the body otherwise; the state of the body, settled; and all
    the rest as the body says, but for the label of the base. The response is the answer to the last
    request, which is the post. -/
theorem record_of_opened {known : Login} {said : List Said}
    {ended : Except Failure PullRequest × Login} {record : PullRequest}
    (h : ((live.createPullRequest owner name base head title body).run.run known).Leads said ended)
    (hrecord : ended.1 = .ok record) :
    Opened live owner name base head title body (sent said) record := by
  have hleads := leads_createPullRequest h
  rw [hrecord] at hleads
  rcases Dialogue.leads_run_bind_iff.1 hleads with ⟨_, hfailure, -⟩ | ⟨now, _, later, rfl, -, hrest⟩
  · exact absurd hfailure nofun
  · rw [sent_append]
    refine Opened.of_later ?_
    cases known with
    | some login => exact opened_of_openPullRequest hrest
    | none =>
        rcases Dialogue.leads_run_bind_iff.1 hrest with
          ⟨_, hfailure, -⟩ | ⟨asked, login, opening, rfl, -, hopen⟩
        · exact absurd hfailure nofun
        · rw [sent_append]
          exact (opened_of_openPullRequest hopen).of_later

/-- A platform that answers a post with a merged pull request, and everything else with null. -/
def mergingPlatform : Dialogue.Oracle Host.Answer
  | _, .send ⟨.post, _, _, _, _, _⟩ _ => .ok
    { status := 201
      headers := [("etag", "new")]
      body := Text.Utf8.encode ("\x7b\"ETag\":\"old\",\"Last-Modified\":\"Fri\",\"base\":\x7b\"label\":\"l\"," ++
        "\"ref\":\"m\"\x7d,\"head\":\x7b\"ref\":\"b\"\x7d,\"html_url\":\"u\",\"id\":1,\"merged\":true," ++
        "\"number\":2,\"state\":\"closed\"\x7d") }
  | _, .send _ _ => .ok { status := 200, body := Text.Utf8.encode "null" }
  | past, question => Git.Runner.processHost {} past question

/-- The record of the pull request that this platform opens. -/
def mergedRecord : PullRequest where
  owner := "o"
  repo := "n"
  etag := some "new"
  lastModified := some "Fri"
  id := 1
  number := 2
  htmlUrl := "u"
  state := .merged
  title := "Title"
  body := some "Text"
  merged := true
  head := { branch := "b" }
  base := { branch := "m" }

/-- The case of a response whose entity tag stands in a header and in the body, and whose modification date
    stands in the body alone. -/
theorem merged_pull_opened :
    let job := (createPullRequest { token := "t", client := {} } "o" "n" "m" "b" "Title" "Text").run.run
      (some "bot")
    let said := job.transcript mergingPlatform []
    said.2.1 = .ok mergedRecord ∧
      Opened { token := "t", client := {} } "o" "n" "m" "b" "Title" "Text" (sent said.1) mergedRecord := by
  have hrecord : (((createPullRequest { token := "t", client := {} } "o" "n" "m" "b" "Title" "Text").run.run
      (some "bot")).transcript mergingPlatform []).2.1.toOption = some mergedRecord := by decide +kernel
  have hok := Result.toOption_eq_some.1 hrecord
  exact ⟨hok, record_of_opened (Dialogue.leads_transcript mergingPlatform [] _) hok⟩

end Live

end PullRequestBot
