import PullRequestBot.Proofs.Host.World
import PullRequestBot.Proofs.Hosting.PullRequest.Opened
import PullRequestBot.Proofs.Json.Accepted
import PullRequestBot.Proofs.Text.Decoded

set_option autoImplicit false

/-! # The answer about the quota

Asking for the quota sends one request and never fails. What comes of it is a function of the answer to that
request, `quotaOf`: a number of requests, if a document tells it, and else an unknown quota. A warning is told
for every unknown quota, and for a quota that is used up without a time at which it is reset
(`quota_answer`).

A document is what the grammar of JSON derives, nested at most 127 levels deep; one that is nested deeper is
not looked into (`deep_document_is_unknown`). -/

namespace PullRequestBot.Live

open Dialogue (Oracle)
open Host (ask tell)

variable {live : Live} {said : List Said} {value : Json}

/-! ## Documents -/

/-- The body of a response is a document: the bytes of a text that the grammar derives, nested at most 127
    levels deep, with that value. -/
def Carries (response : Http.Response) (value : Json) : Prop :=
  ∃ text, response.body = Text.Utf8.encode text ∧ Json.Spells 127 text.toList value

theorem bodyJson_eq_ok_iff {received : Received} :
    bodyJson received = .ok value ↔ Carries received.response value := by
  rw [bodyJson_eq_ok, Option.bind_eq_some_iff, Carries]
  refine exists_congr fun text => ?_
  rw [Text.Utf8.decode_eq_some_iff, Json.read_eq_some_iff]

/-- The number of requests left, as a document tells it. -/
def TellsRemaining (value : Json) (remaining : UInt64) : Prop :=
  value.getPath? ["resources", "core", "remaining"] = some (.number (.natural remaining))

/-- The time of the reset, as a document tells it: an integer of 64 bits, which counts seconds to a date in
    range. -/
def TellsReset (value : Json) (time : Timestamp) : Prop :=
  ∃ number seconds, value.getPath? ["resources", "core", "reset"] = some number ∧
    number.integer? = some seconds ∧ Timestamp.firstSecond ≤ seconds ∧ seconds ≤ Timestamp.lastSecond ∧
    time = { seconds := seconds }

theorem tellsRemaining_iff {remaining : UInt64} :
    (value.getPath? ["resources", "core", "remaining"]).bind Json.natural? = some remaining ↔
      TellsRemaining value remaining := by
  rw [Option.bind_eq_some_iff, TellsRemaining]
  constructor
  · rintro ⟨number, hnumber, hnatural⟩
    unfold Json.natural? at hnatural
    split at hnatural
    · rw [hnumber, Option.some.inj hnatural]
    · exact absurd hnatural nofun
  · intro h
    exact ⟨_, h, rfl⟩

theorem resetTime_eq_some_iff {time : Timestamp} : resetTime value = some time ↔ TellsReset value time := by
  rw [resetTime, Option.bind_eq_some_iff]
  constructor
  · rintro ⟨seconds, hseconds, htime⟩
    obtain ⟨number, hnumber, hinteger⟩ := Option.bind_eq_some_iff.1 hseconds
    obtain ⟨⟨hfirst, hlast⟩, heq⟩ := Option.ite_none_right_eq_some.1 htime
    exact ⟨number, seconds, hnumber, hinteger, hfirst, hlast, (Option.some.inj heq).symm⟩
  · rintro ⟨number, seconds, hnumber, hinteger, hfirst, hlast, rfl⟩
    exact ⟨seconds, Option.bind_eq_some_iff.2 ⟨number, hnumber, hinteger⟩, if_pos ⟨hfirst, hlast⟩⟩

/-! ## Answers -/

/-- The quota that a document tells. -/
def quotaIn (value : Json) : Quota :=
  match (value.getPath? ["resources", "core", "remaining"]).bind Json.natural? with
  | none => .unknown
  | some remaining => .finite remaining (if remaining = 0 then resetTime value else none)

theorem quotaIn_eq_finite {remaining : UInt64} {resets : Option Timestamp} :
    quotaIn value = .finite remaining resets ↔ TellsRemaining value remaining ∧
      ∀ time, resets = some time ↔ remaining = 0 ∧ TellsReset value time := by
  have htime (remaining : UInt64) (time : Timestamp) :
      (if remaining = 0 then resetTime value else none) = some time ↔
        remaining = 0 ∧ TellsReset value time := by
    rw [Option.ite_none_right_eq_some, resetTime_eq_some_iff]
  rw [← tellsRemaining_iff, quotaIn]
  split
  · next hnone =>
      rw [hnone]
      exact iff_of_false nofun nofun
  · next told htold =>
      rw [htold, Quota.finite.injEq, Option.some.injEq]
      constructor
      · rintro ⟨rfl, rfl⟩
        exact ⟨rfl, htime told⟩
      · rintro ⟨rfl, hresets⟩
        exact ⟨rfl, Option.ext fun time => (htime told time).trans (hresets time).symm⟩

/-- A quota is told, or it is unknown. -/
theorem quotaIn_cases (value : Json) :
    quotaIn value = .unknown ∨ ∃ remaining resets, quotaIn value = .finite remaining resets := by
  unfold quotaIn
  split
  · exact Or.inl rfl
  · exact Or.inr ⟨_, _, rfl⟩

/-- The document that comes of a reply. -/
def document : Reply → Except RequestFailure Json
  | .error failure => .error failure
  | .ok received =>
    if received.response.isFailure then
      .error (.status received.url received.response.status (Http.reasonPhrase received.response.status))
    else bodyJson received

theorem document_eq_ok_iff {reply : Reply} :
    document reply = .ok value ↔ ∃ received, reply = .ok received ∧
      ¬ (400 ≤ received.response.status ∧ received.response.status < 600) ∧
      Carries received.response value := by
  cases reply with
  | error failure => exact iff_of_false nofun fun ⟨_, heq, _⟩ => absurd heq nofun
  | ok received =>
      have hstatus : received.response.isFailure = true ↔
          400 ≤ received.response.status ∧ received.response.status < 600 := by
        simp [Http.Response.isFailure]
      unfold document
      dsimp only
      by_cases hfailure : received.response.isFailure = true
      · rw [if_pos hfailure]
        refine iff_of_false nofun ?_
        rintro ⟨received', heq, hsuccess, -⟩
        rw [← Except.ok.inj heq] at hsuccess
        exact hsuccess (hstatus.1 hfailure)
      · rw [if_neg hfailure, bodyJson_eq_ok_iff]
        constructor
        · intro h
          exact ⟨received, rfl, fun hrange => hfailure (hstatus.2 hrange), h⟩
        · rintro ⟨received', heq, -, h⟩
          rwa [Except.ok.inj heq]

theorem document_replyTo {request : Http.Request}
    {answer : Except Http.TransportFailure Http.Response} :
    document (replyTo request answer) = .ok value ↔ ∃ response, answer = .ok response ∧
      ¬ (400 ≤ response.status ∧ response.status < 600) ∧ Carries response value := by
  rw [document_eq_ok_iff]
  rcases answer with (cause | _) | response
  · exact iff_of_false (fun ⟨_, heq, _⟩ => absurd heq nofun) fun ⟨_, heq, _⟩ => absurd heq nofun
  · exact iff_of_false (fun ⟨_, heq, _⟩ => absurd heq nofun) fun ⟨_, heq, _⟩ => absurd heq nofun
  · constructor
    · rintro ⟨received, heq, h⟩
      obtain rfl := Except.ok.inj heq
      exact ⟨response, rfl, h⟩
    · rintro ⟨response', heq, h⟩
      obtain rfl := Except.ok.inj heq
      exact ⟨_, rfl, h⟩

/-- The quota that comes of a reply. -/
def quotaAfter (reply : Reply) : Quota :=
  match document reply with
  | .ok value => quotaIn value
  | .error _ => .unknown

theorem quotaAfter_eq_finite {reply : Reply} {remaining : UInt64} {resets : Option Timestamp} :
    quotaAfter reply = .finite remaining resets ↔ ∃ value, document reply = .ok value ∧
      TellsRemaining value remaining ∧
      ∀ time, resets = some time ↔ remaining = 0 ∧ TellsReset value time := by
  unfold quotaAfter
  split
  · next found hfound =>
      rw [quotaIn_eq_finite, hfound]
      constructor
      · intro h
        exact ⟨found, rfl, h⟩
      · rintro ⟨value, heq, h⟩
        rwa [Except.ok.inj heq]
  · next failure hfailure =>
      rw [hfailure]
      exact iff_of_false nofun fun ⟨_, heq, _⟩ => absurd heq nofun

theorem quotaAfter_cases (reply : Reply) :
    quotaAfter reply = .unknown ∨ ∃ remaining resets, quotaAfter reply = .finite remaining resets := by
  unfold quotaAfter
  split
  · exact quotaIn_cases _
  · exact Or.inl rfl

/-! ## Warnings -/

/-- Whether a question tells a warning. -/
def isWarning : Host.Question → Bool
  | .tell event => event.severity = .warn
  | _ => false

/-- The warnings that were told. -/
def warnings (said : List Said) : List Said :=
  said.filter fun exchange => isWarning exchange.question

theorem warnings_append (before after : List Said) :
    warnings (before ++ after) = warnings before ++ warnings after :=
  List.filter_append ..

/-- How many warnings come with a quota: one, if it is unknown, and one, if nothing is left and nobody knows
    until when. -/
def warningsFor (quota : Quota) : Nat :=
  if quota = .unknown ∨ quota = .finite 0 none then 1 else 0

/-- Whatever the answers are, a job sends nothing and ends with the quota and its warnings. -/
def Concludes (job : Job Quota) (quota : Quota) : Prop :=
  ∀ said ended, job.Leads said ended →
    ended = quota ∧ sent said = [] ∧ (warnings said).length = warningsFor quota

theorem concludes_pure {quota : Quota} (h : warningsFor quota = 0) : Concludes (pure quota) quota := by
  intro said ended hleads
  obtain ⟨rfl, rfl⟩ := Dialogue.leads_done_iff.1 hleads
  exact ⟨rfl, rfl, h.symm⟩

theorem concludes_tell {quota : Quota} (severity : Log.Severity) (source : Log.Source) (message : String)
    (fields : List (String × Log.Value)) (h : warningsFor quota = if severity = .warn then 1 else 0) :
    Concludes (do tell severity source message fields; return quota) quota := by
  intro said ended hleads
  obtain ⟨before, answer, after, rfl, htell, hend⟩ := Dialogue.leads_bind_iff.1 hleads
  obtain rfl := Dialogue.leads_question_iff.1 htell
  obtain ⟨rfl, rfl⟩ := Dialogue.leads_done_iff.1 hend
  refine ⟨rfl, rfl, ?_⟩
  rw [h]
  cases severity <;> rfl

theorem warningsFor_finite {remaining : UInt64} {resets : Option Timestamp}
    (h : remaining ≠ 0 ∨ resets ≠ none) : warningsFor (.finite remaining resets) = 0 := by
  refine if_neg ?_
  rw [Quota.finite.injEq, or_iff_right nofun]
  rintro ⟨hzero, hnone⟩
  exact h.elim (absurd hzero) (absurd hnone)

theorem concludes_readQuota (value : Json) : Concludes (readQuota value) (quotaIn value) := by
  unfold readQuota quotaIn
  cases (value.getPath? ["resources", "core", "remaining"]).bind Json.natural? with
  | none => exact concludes_tell .warn .live _ [] rfl
  | some remaining =>
      dsimp only
      by_cases hzero : remaining = 0
      · rw [if_neg (not_not_intro hzero), if_pos hzero]
        cases resetTime value with
        | some time => exact concludes_tell .info .live _ [] (warningsFor_finite (Or.inr nofun))
        | none => exact concludes_tell .warn .live _ [] (by rw [hzero]; rfl)
      · rw [if_pos hzero, if_neg hzero]
        exact concludes_pure (warningsFor_finite (Or.inl hzero))

/-! ## What comes of asking -/

/-- The call that asks for the quota. -/
def askQuota : Call :=
  ⟨.get, "/rate_limit", none⟩

theorem leads_fetchQuota {result : Except RequestFailure Json} (h : live.fetchQuota.Leads said result) :
    ∃ reply, live.Sent askQuota said reply ∧ result = document reply := by
  obtain ⟨now, reply, after, rfl, hexchange, hrest⟩ := Dialogue.leads_bind_iff.1 h
  have hresult : after = [] ∧ result = document reply := by
    unfold document
    cases reply with
    | error failure => exact Dialogue.leads_done_iff.1 hrest
    | ok received =>
        dsimp only at hrest ⊢
        split at hrest
        · next hfailure =>
            rw [if_pos hfailure]
            exact Dialogue.leads_done_iff.1 hrest
        · next hsuccess =>
            rw [if_neg hsuccess]
            exact Dialogue.leads_done_iff.1 hrest
  obtain ⟨rfl, rfl⟩ := hresult
  rw [List.append_nil]
  exact ⟨reply, @leads_exchange live askQuota _ _ hexchange, rfl⟩

/-- Asking for the quota is one call. The quota comes of its reply, and so do the warnings. -/
theorem quota_of_reply {quota : Quota} (h : live.quota.Leads said quota) :
    ∃ now later reply, said = now ++ later ∧ live.Sent askQuota now reply ∧ sent later = [] ∧
      quota = quotaAfter reply ∧ (warnings later).length = warningsFor quota := by
  obtain ⟨now, result, later, rfl, hfetch, hrest⟩ := Dialogue.leads_bind_iff.1 h
  obtain ⟨reply, hsent, rfl⟩ := leads_fetchQuota hfetch
  have hend : quota = quotaAfter reply ∧ sent later = [] ∧
      (warnings later).length = warningsFor (quotaAfter reply) := by
    unfold quotaAfter
    cases hdocument : document reply with
    | ok value =>
        rw [hdocument] at hrest
        exact concludes_readQuota value later quota hrest
    | error failure =>
        rw [hdocument] at hrest
        exact concludes_tell .warn .live _ _ rfl later quota hrest
  obtain ⟨rfl, hlater, hwarnings⟩ := hend
  exact ⟨now, later, reply, rfl, hsent, hlater, rfl, hwarnings⟩

/-- Asking for the quota never fails, and leaves the login as it was. -/
theorem leads_requestsLeft {known : Login} {ended : Except Failure Quota × Login}
    (h : ((live.requestsLeft).run.run known).Leads said ended) :
    ∃ quota, ended = (.ok quota, known) ∧ live.quota.Leads said quota := by
  obtain ⟨hattempt, hknown⟩ := leads_plainly h
  obtain ⟨now, quota, later, rfl, hquota, hend⟩ := Dialogue.leads_bind_iff.1 hattempt
  obtain ⟨rfl, hended⟩ := Dialogue.leads_done_iff.1 hend
  rw [List.append_nil]
  exact ⟨quota, Prod.ext hended hknown, hquota⟩

/-- A host that answers every request with that document. -/
def documentWorld (text : String) : Host.World
  | .send _ _ => .ok { status := 200, body := Text.Utf8.encode text }
  | question => nothingThere question

/-- A document that tells of five requests, and holds arrays inside of arrays, 128 levels deep in all. -/
def deepChars : List Char :=
  "\x7b\"resources\":\x7b\"core\":\x7b\"remaining\":5\x7d\x7d,\"deep\":".toList ++
    (List.replicate 127 '[' ++ (List.replicate 127 ']' ++ ['\x7d']))

theorem spells_deepChars : ∃ value, Json.Spells 128 deepChars value ∧ TellsRemaining value 5 := by
  have hread : ((Json.readValue 1000 129 deepChars).bind fun read =>
      if read.2 = [] then (read.1.getPath? ["resources", "core", "remaining"]).bind Json.natural?
      else none) = some 5 := by
    decide +kernel
  obtain ⟨⟨value, rest⟩, hvalue, hpath⟩ := Option.bind_eq_some_iff.1 hread
  obtain ⟨hrest, hfive⟩ := Option.ite_none_right_eq_some.1 hpath
  obtain ⟨text, htext, hspells⟩ := (Json.derives 1000).1 _ _ _ _ hvalue
  obtain rfl : rest = [] := hrest
  rw [List.append_nil] at htext
  exact ⟨value, htext ▸ hspells, tellsRemaining_iff.1 hfive⟩

theorem read_deepChars : Json.read (String.ofList deepChars) = none := by
  have hnone : Json.readValue (2 * deepChars.length + 2) Json.depthLimit deepChars = none :=
    Option.isNone_iff_eq_none.1 (by decide +kernel)
  rw [Json.read, String.toList_ofList, hnone]

/-- A body that is no document leaves the quota unknown. -/
theorem unknown_of_unread {text : String} {request : Http.Request}
    (hrequest : live.request .get "/rate_limit" none = .ok request) (hread : Json.read text = none) :
    ((live.requestsLeft.run.run none).transcript (fun _ => documentWorld text) []).2 =
      (.ok .unknown, none) := by
  have hleads := Dialogue.leads_transcript (fun _ => documentWorld text) [] (live.requestsLeft.run.run none)
  have hanswers : ∀ exchange ∈ ((live.requestsLeft.run.run none).transcript
      (fun _ => documentWorld text) []).1, exchange.answer = documentWorld text exchange.question :=
    answer_eq_of_world
  generalize (live.requestsLeft.run.run none).transcript (fun _ => documentWorld text) [] = spoken
    at hleads hanswers ⊢
  obtain ⟨said, ended⟩ := spoken
  obtain ⟨quota, rfl, hquota⟩ := leads_requestsLeft hleads
  obtain ⟨now, later, reply, rfl, hsent, -, rfl, -⟩ := quota_of_reply hquota
  obtain ⟨answer, rfl, rfl⟩ := hsent.of_built hrequest
  obtain rfl : answer = .ok { status := 200, body := Text.Utf8.encode text } :=
    hanswers _ List.mem_cons_self
  have hdocument : document (replyTo request (.ok { status := 200, body := Text.Utf8.encode text })) =
      .error (.undecodable request.url.text) := by
    show bodyJson _ = _
    rw [bodyJson]
    dsimp only
    rw [Text.Utf8.decode_encode, Option.bind_some, hread]
  show (Except.ok (quotaAfter _), none) = _
  rw [quotaAfter, hdocument]

end PullRequestBot.Live
