import PullRequestBot.Hosting.Live
import PullRequestBot.Proofs.Dialogue.Transcript

set_option autoImplicit false

/-! # Calls on the platform

The live backend talks to the platform by calls. A call is sent at most once, and a reply comes of it:
a response, or the failure that kept one from coming (`Sent`). What a helper of the backend makes of the
reply to its one call is a function of it, `judge` applied to a verdict on responses (`Judges`); besides,
the helper asks for nothing that is sent. -/

namespace PullRequestBot.Live

open Dialogue (Exchange)
open Host (ask tell)

variable {α β : Type} {live : Live} {action target owner name : String} {received : Received}

/-! ## Requests among what is said -/

/-- A question to the host together with its answer. -/
abbrev Said := Exchange Host.Answer

/-- Whether a question sends a request. -/
def isSend : Host.Question → Bool
  | .send _ _ => true
  | _ => false

/-- The requests that were sent, each with its answer, in order. -/
def sent (said : List Said) : List Said :=
  said.filter fun exchange => isSend exchange.question

/-- The method of a request, and the address that it is sent to. -/
def sentAs? (exchange : Said) : Option (Http.Method × String) :=
  match exchange.question with
  | .send request _ => some (request.method, request.url.sent)
  | _ => none

theorem sent_append (before after : List Said) : sent (before ++ after) = sent before ++ sent after :=
  List.filter_append ..

/-- A question that is no request sends nothing. -/
theorem sent_question {q : Host.Question} {said : List Said} {answer : Host.Answer q}
    (h : (ask q).Leads said answer) (hq : isSend q = false) : sent said = [] := by
  rw [Dialogue.leads_question_iff.1 h]
  exact List.filter_cons_of_neg (by rw [hq]; exact Bool.false_ne_true)

/-! ## Calls and replies -/

/-- A call on the interface: a path below its address. -/
structure Call where
  method : Http.Method
  path : String
  body : Option Json := none

/-- The request that a call is built into has the method and the body of the call. -/
theorem request_eq_ok {method : Http.Method} {path : String} {body : Option Json} {request : Http.Request}
    (h : live.request method path body = .ok request) :
    request.method = method ∧ request.body = body := by
  unfold Live.request at h
  dsimp only at h
  split at h
  · rw [pure_bind] at h
    -- each check leaves no request where it fails
    split at h
    · exact absurd h nofun
    · split at h
      · exact absurd h nofun
      · split at h
        · exact absurd h nofun
        · split at h
          · exact absurd h nofun
          · rw [← Except.ok.inj h]
            exact ⟨rfl, rfl⟩
  · exact absurd h nofun

/-- What comes of a call. -/
abbrev Reply := Except RequestFailure Received

/-- The reply to a request that was sent. -/
def replyTo (request : Http.Request) : Except Http.TransportFailure Http.Response → Reply
  | .ok response => .ok ⟨request.url.text, response⟩
  | .error (.unreachable cause) => .error (.unreachable request.url.text cause)
  | .error .closed => .error (.closed request.url.text)

/-- A call is sent, and the reply comes of it. Where its request cannot be built, nothing is sent. -/
inductive Sent (live : Live) (call : Call) : List Said → Reply → Prop where
  | unbuilt {failure : RequestFailure}
      (hbuilt : live.request call.method call.path call.body = .error failure) :
      Sent live call [] (.error failure)
  | answered {request : Http.Request} (answer : Except Http.TransportFailure Http.Response)
      (hbuilt : live.request call.method call.path call.body = .ok request) :
      Sent live call [⟨.send request live.timeout, answer⟩] (replyTo request answer)

/-- A call whose request can be built is sent, by that request. -/
theorem Sent.of_built {call : Call} {said : List Said} {reply : Reply} {request : Http.Request}
    (h : live.Sent call said reply)
    (hrequest : live.request call.method call.path call.body = .ok request) :
    ∃ answer, said = [⟨.send request live.timeout, answer⟩] ∧ reply = replyTo request answer := by
  cases h with
  | unbuilt hbuilt =>
      rw [hrequest] at hbuilt
      exact absurd hbuilt nofun
  | answered answer hbuilt =>
      obtain rfl := Except.ok.inj (hrequest.symm.trans hbuilt)
      exact ⟨answer, rfl, rfl⟩

/-- Where the request of a call cannot be built, that is its reply. -/
theorem Sent.of_unbuilt {call : Call} {said : List Said} {reply : Reply} {failure : RequestFailure}
    (h : live.Sent call said reply)
    (hrequest : live.request call.method call.path call.body = .error failure) :
    said = [] ∧ reply = .error failure := by
  cases h with
  | unbuilt hbuilt =>
      rw [Except.error.inj (hrequest.symm.trans hbuilt)]
      exact ⟨rfl, rfl⟩
  | answered answer hbuilt =>
      rw [hrequest] at hbuilt
      exact absurd hbuilt nofun

/-- All that a call says is a request. -/
theorem Sent.sent_eq {call : Call} {said : List Said} {reply : Reply} (h : live.Sent call said reply) :
    sent said = said := by
  cases h with
  | unbuilt _ | answered _ _ => rfl

theorem leads_exchange {call : Call} {said : List Said} {reply : Reply}
    (h : (live.exchange call.method call.path call.body).Leads said reply) :
    live.Sent call said reply := by
  unfold exchange at h
  split at h
  · next failure hbuilt =>
      obtain ⟨rfl, rfl⟩ := Dialogue.leads_done_iff.1 h
      exact .unbuilt hbuilt
  · next request hbuilt =>
      obtain ⟨_, answer, after, rfl, hsend, hrest⟩ := Dialogue.leads_bind_iff.1 h
      obtain rfl := Dialogue.leads_question_iff.1 hsend
      have hreply : after = [] ∧ reply = replyTo request answer := by
        rcases answer with (cause | _) | response <;> exact Dialogue.leads_done_iff.1 hrest
      obtain ⟨rfl, rfl⟩ := hreply
      exact .answered answer hbuilt

/-! ## Verdicts on replies -/

/-- What becomes of a reply when only responses are looked into. -/
def judge (verdict : Received → Except Failure α) : Reply → Except Failure α
  | .ok received => verdict received
  | .error failure => .error (.platform (.request failure))

theorem judge_bind (verdict : Received → Except Failure α) (next : α → Except Failure β)
    (reply : Reply) :
    judge (fun received => verdict received >>= next) reply = judge verdict reply >>= next := by
  cases reply with
  | ok _ | error _ => rfl

/-- Whatever the answers are, an attempt sends nothing and ends with the result. -/
def Settles (attempt : Attempt α) (result : Except Failure α) : Prop :=
  ∀ said ending, attempt.run.Leads said ending → sent said = [] ∧ ending = result

theorem settles_pure (value : α) : Settles (pure value) (.ok value) := by
  intro said ending h
  obtain ⟨rfl, rfl⟩ := Dialogue.leads_done_iff.1 h
  exact ⟨rfl, rfl⟩

theorem settles_failPlatform (failure : PlatformFailure) :
    Settles (Attempt.failPlatform failure : Attempt α) (.error (.platform failure)) := by
  intro said ending h
  obtain ⟨rfl, rfl⟩ := Dialogue.leads_done_iff.1 h
  exact ⟨rfl, rfl⟩

theorem Settles.ite {condition : Prop} [Decidable condition] {first second : Attempt α}
    {result result' : Except Failure α} (h : Settles first result) (h' : Settles second result') :
    Settles (if condition then first else second) (if condition then result else result') := by
  split
  · exact h
  · exact h'

theorem Settles.bind {first : Attempt α} {rest : α → Attempt β} {result : Except Failure α}
    {next : α → Except Failure β} (h : Settles first result)
    (hrest : ∀ value, Settles (rest value) (next value)) :
    Settles (first >>= rest) (result >>= next) := by
  intro said ending hleads
  rcases Dialogue.leads_run_bind_iff.1 hleads with
    ⟨failure, rfl, hfirst⟩ | ⟨before, middle, after, rfl, hfirst, hlater⟩
  · obtain ⟨hsaid, rfl⟩ := h said _ hfirst
    exact ⟨hsaid, rfl⟩
  · obtain ⟨hbefore, rfl⟩ := h before _ hfirst
    obtain ⟨hafter, rfl⟩ := hrest middle after ending hlater
    rw [sent_append, hbefore, hafter]
    exact ⟨rfl, rfl⟩

/-- What fails first fails as a whole. -/
theorem Settles.error_bind {first : Attempt α} {failure : Failure} (rest : α → Attempt β)
    (h : Settles first (.error failure)) : Settles (first >>= rest) (.error failure) := by
  intro said ending hleads
  rcases Dialogue.leads_run_bind_iff.1 hleads with
    ⟨failed, rfl, hfirst⟩ | ⟨before, value, after, -, hfirst, -⟩
  · obtain ⟨hsaid, hfailure⟩ := h said _ hfirst
    exact ⟨hsaid, congrArg Except.error (Except.error.inj hfailure)⟩
  · exact absurd (h before _ hfirst).2 nofun

/-- A question that is no request may be asked first. -/
theorem Settles.ask_bind {q : Host.Question} {rest : Host.Answer q → Attempt α}
    {result : Except Failure α} (hq : isSend q = false) (h : ∀ answer, Settles (rest answer) result) :
    Settles (liftM (ask q) >>= rest) result := by
  intro said ending hleads
  obtain ⟨before, answer, after, rfl, hask, hrest⟩ := Dialogue.leads_run_lift_bind_iff.1 hleads
  obtain ⟨hafter, rfl⟩ := h answer after ending hrest
  rw [sent_append, sent_question hask hq, hafter]
  exact ⟨rfl, rfl⟩

theorem settles_failed (status : Nat) :
    Settles (failed action target status : Attempt α)
      (.error (.platform (.failed action target status))) :=
  .ask_bind rfl fun _ => settles_failPlatform _

/-- An attempt makes one call, and its result is the verdict on the reply. -/
def Judges (live : Live) (call : Call) (verdict : Received → Except Failure α)
    (attempt : Attempt α) : Prop :=
  ∀ said result, attempt.run.Leads said result →
    ∃ reply, live.Sent call (sent said) reply ∧ result = judge verdict reply

theorem leads_send {call : Call} {said : List Said} {result : Except Failure Received}
    (h : (live.send call.method call.path call.body).run.Leads said result) :
    ∃ reply, live.Sent call said reply ∧ result = judge .ok reply := by
  unfold send at h
  obtain ⟨before, reply, after, rfl, hexchange, hrest⟩ := Dialogue.leads_run_lift_bind_iff.1 h
  have hresult : after = [] ∧ result = judge .ok reply := by
    rcases reply with failure | received <;> exact Dialogue.leads_done_iff.1 hrest
  obtain ⟨rfl, rfl⟩ := hresult
  rw [List.append_nil]
  exact ⟨reply, leads_exchange hexchange, rfl⟩

/-- What is done with the response to a call. -/
theorem leads_send_bind {call : Call} {rest : Received → Attempt α} {said : List Said}
    {result : Except Failure α}
    (h : (live.send call.method call.path call.body >>= rest).run.Leads said result) :
    (∃ failure, live.Sent call said (.error failure) ∧
        result = .error (.platform (.request failure))) ∨
      ∃ now received later, said = now ++ later ∧ live.Sent call now (.ok received) ∧
        (rest received).run.Leads later result := by
  rcases Dialogue.leads_run_bind_iff.1 h with
    ⟨failure, rfl, hsend⟩ | ⟨now, received, later, rfl, hsend, hrest⟩
  · obtain ⟨reply, hsent, hreply⟩ := leads_send hsend
    cases reply with
    | ok received => exact absurd hreply nofun
    | error met =>
        rw [Except.error.inj hreply]
        exact Or.inl ⟨met, hsent, rfl⟩
  · obtain ⟨reply, hsent, hreply⟩ := leads_send hsend
    cases reply with
    | ok answered =>
        obtain rfl := Except.ok.inj hreply
        exact Or.inr ⟨now, received, later, rfl, hsent, hrest⟩
    | error met => exact absurd hreply nofun

/-- A call whose response is looked into without a further request. -/
theorem judges_send_bind {call : Call} {rest : Received → Attempt α}
    {verdict : Received → Except Failure α} (h : ∀ received, Settles (rest received) (verdict received)) :
    live.Judges call verdict (live.send call.method call.path call.body >>= rest) := by
  intro said result hleads
  rcases leads_send_bind hleads with ⟨failure, hsent, rfl⟩ | ⟨now, received, later, rfl, hsent, hrest⟩
  · exact ⟨.error failure, by rwa [hsent.sent_eq], rfl⟩
  · obtain ⟨hlater, rfl⟩ := h received later result hrest
    refine ⟨.ok received, ?_, rfl⟩
    rwa [sent_append, hsent.sent_eq, hlater, List.append_nil]

theorem Judges.bind {call : Call} {verdict : Received → Except Failure α} {attempt : Attempt α}
    {rest : α → Attempt β} {next : α → Except Failure β} (h : live.Judges call verdict attempt)
    (hrest : ∀ value, Settles (rest value) (next value)) :
    live.Judges call (fun received => verdict received >>= next) (attempt >>= rest) := by
  intro said result hleads
  rcases Dialogue.leads_run_bind_iff.1 hleads with
    ⟨failure, rfl, hfirst⟩ | ⟨before, middle, after, rfl, hfirst, hlater⟩
  · obtain ⟨reply, hsent, hreply⟩ := h said _ hfirst
    exact ⟨reply, hsent, by rw [judge_bind, ← hreply]; rfl⟩
  · obtain ⟨reply, hsent, hreply⟩ := h before _ hfirst
    obtain ⟨hafter, rfl⟩ := hrest middle after result hlater
    refine ⟨reply, ?_, by rw [judge_bind, ← hreply]; rfl⟩
    rwa [sent_append, hafter, List.append_nil]

/-! ## The calls of the helpers -/

/-- The call that looks at a repository. -/
def lookAt (owner name : String) : Call :=
  ⟨.get, repositoryPath owner name, none⟩

/-- The call that asks whose account it is. -/
def askUser : Call :=
  ⟨.get, "/user", none⟩

/-- The call that opens a pull request from a branch of an account. -/
def askForPull (owner name base head title body login : String) : Call :=
  ⟨.post, s!"{repositoryPath owner name}/pulls",
    some (.object [("base", .string base), ("body", .string body), ("head", .string s!"{login}:{head}"),
      ("title", .string title)])⟩

/-- Whether a response tells that a repository can be seen. -/
def presence (owner name : String) (received : Received) : Except Failure Bool :=
  if received.response.status = 404 then .ok false
  else if received.response.isSuccess then .ok true
  else .error (.platform
    (.failed "Could not check repository" s!"{owner}/{name}" received.response.status))

/-- The JSON in the body of a response. -/
def jsonIn (action : String) (received : Received) : Except Failure Json :=
  match bodyJson received with
  | .ok value => .ok value
  | .error failure => .error (.platform (.unexpectedResponse action failure.message))

/-- A successful response, or else a failure with its status. -/
def accepted (action target : String) (received : Received) : Except Failure Unit :=
  if received.response.isSuccess then .ok ()
  else .error (.platform (.failed action target received.response.status))

theorem accepted_eq_ok {value : Unit} :
    accepted action target received = .ok value ↔ received.response.isSuccess = true := by
  unfold accepted
  split
  · next hsuccess => simp [hsuccess]
  · next hfailure => simp [hfailure]

theorem jsonIn_eq_ok {value : Json} :
    jsonIn action received = .ok value ↔ bodyJson received = .ok value := by
  unfold jsonIn
  cases bodyJson received with
  | ok _ => simp
  | error _ => simp

/-- What a response tells about a repository, which has to exist. -/
def description (owner name : String) (received : Received) : Except Failure Json :=
  if received.response.status = 404 then .error (.platform (.repositoryNotFound owner name))
  else if received.response.isSuccess then jsonIn "Could not read repository" received
  else .error (.platform
    (.failed "Could not read repository" s!"{owner}/{name}" received.response.status))

theorem description_of_notFound (h : received.response.status = 404) :
    description owner name received = .error (.platform (.repositoryNotFound owner name)) :=
  if_pos h

/-- The default branch of a repository, as a response tells it. -/
def branchIn (owner name : String) (received : Received) : Except Failure String := do
  match stringField (← description owner name received) "default_branch" with
  | some branch => .ok branch
  | none => .error (.platform (.unexpectedResponse
      s!"Could not read default branch of {owner}/{name}" "missing default_branch"))

/-- The login of the account, as a response tells it. -/
def loginIn (received : Received) : Except Failure String := do
  accepted "Could not fetch authenticated user" "/user" received
  match stringField (← jsonIn "Could not fetch authenticated user" received) "login" with
  | some login => .ok login
  | none => .error (.platform
      (.unexpectedResponse "Could not fetch authenticated user" "missing login"))

/-- The pull request that was opened, as a response tells of it. -/
def pullIn (owner name title body : String) (received : Received) : Except Failure PullRequest :=
  let action := "Could not create pull request"
  if received.response.status ≠ 201 then
    .error (.platform (.failed action s!"{owner}/{name}" received.response.status))
  else do
    match readPullRequest received.response (← jsonIn action received) with
    | .ok record => .ok ((record.inRepository owner name).withText title body)
    | .error failure => .error (.platform (.unexpectedResponse action failure.message))

theorem settles_expectJson : Settles (expectJson received action) (jsonIn action received) := by
  unfold expectJson jsonIn
  cases bodyJson received with
  | ok value => exact settles_pure value
  | error failure => exact settles_failPlatform _

theorem judges_checkRepository (live : Live) (owner name : String) :
    live.Judges (lookAt owner name) (presence owner name) (live.checkRepository owner name) :=
  judges_send_bind fun _ =>
    .ite (settles_pure false) (.ite (settles_pure true) (settles_failed _))

theorem judges_repository (live : Live) (owner name : String) :
    live.Judges (lookAt owner name) (description owner name) (live.repository owner name) :=
  judges_send_bind fun _ =>
    .ite (settles_failPlatform _) (.ite settles_expectJson (settles_failed _))

theorem judges_defaultBranch (live : Live) (owner name : String) :
    live.Judges (lookAt owner name) (branchIn owner name) (live.defaultBranch owner name) := by
  refine (live.judges_repository owner name).bind fun value => ?_
  cases stringField value "default_branch" with
  | some branch => exact settles_pure branch
  | none => exact settles_failPlatform _

/-- Fails unless the response is successful. -/
def accept (action target : String) (received : Received) : Attempt PUnit :=
  if !received.response.isSuccess then failed action target received.response.status else pure ⟨⟩

theorem accept_bind (rest : PUnit → Attempt α) :
    accept action target received >>= rest =
      if !received.response.isSuccess then failed action target received.response.status >>= rest
      else rest ⟨⟩ := by
  unfold accept
  split
  · rfl
  · exact pure_bind _ _

theorem settles_accept :
    Settles (accept action target received) (accepted action target received) := by
  unfold accept accepted
  cases received.response.isSuccess with
  | false => exact settles_failed _
  | true => exact settles_pure _

/-- A call that only has to succeed. -/
def submit (live : Live) (method : Http.Method) (path : String) (body : Option Json)
    (action target : String) : Attempt PUnit :=
  live.send method path body >>= accept action target

theorem judges_submit (live : Live) (method : Http.Method) (path : String) (body : Option Json)
    (action target : String) :
    live.Judges ⟨method, path, body⟩ (accepted action target)
      (live.submit method path body action target) :=
  @judges_send_bind _ live ⟨method, path, body⟩ _ _ fun _ => settles_accept

theorem submit_bind (live : Live) (method : Http.Method) (path : String) (body : Option Json)
    (rest : PUnit → Attempt α) :
    live.submit method path body action target >>= rest =
      live.send method path body >>= fun received =>
        if !received.response.isSuccess then failed action target received.response.status >>= rest
        else rest ⟨⟩ := by
  rw [submit, bind_assoc]
  exact bind_congr fun received => accept_bind rest

theorem judges_fetchLogin (live : Live) : live.Judges askUser loginIn live.fetchLogin := by
  refine judges_send_bind fun received => ?_
  dsimp only
  rw [← accept_bind]
  refine settles_accept.bind fun _ => settles_expectJson.bind fun value => ?_
  cases stringField value "login" with
  | some login => exact .ask_bind rfl fun _ => settles_pure login
  | none => exact settles_failPlatform _

theorem judges_openPullRequest (live : Live) (owner name base head title body login : String) :
    live.Judges (askForPull owner name base head title body login) (pullIn owner name title body)
      (live.openPullRequest owner name base head title body login) := by
  refine judges_send_bind fun received => ?_
  refine .ite ((settles_failed _).error_bind _) (settles_expectJson.bind fun value => ?_)
  cases readPullRequest received.response value with
  | ok record => exact .ask_bind rfl fun _ => settles_pure _
  | error failure => exact settles_failPlatform _

end PullRequestBot.Live
