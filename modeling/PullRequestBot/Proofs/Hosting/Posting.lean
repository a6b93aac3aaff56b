import PullRequestBot.Proofs.Hosting.Login
import PullRequestBot.Proofs.Hosting.Script
import PullRequestBot.Proofs.Result

set_option autoImplicit false

/-! # What comes before a post

A pull request or a comment that was posted cannot be taken back. Before the live backend opens a pull
request, it looks at the repository and learns the login, unless it knows it; before it comments, it looks
at the repository and at the pull request. Both follow a script (`pullScript`, `commentScript`) with one
stage that posts, and that stage is the last. Whatever the platform answers, what is posted comes behind
answers that all passed (`posts_come_last`). -/

namespace PullRequestBot.Live

open Dialogue (Oracle)
open Result (map_eq_ok map_eq_error)

variable {α Stage : Type} {live : Live} {owner name base head title body : String} {number : UInt64}
  {known : Login}

/-! ## Posts -/

/-- A request was sent that posts. -/
def Posts (exchange : Said) : Prop :=
  ∃ request timeout answer, exchange = ⟨.send request timeout, answer⟩ ∧ request.method = .post

/-- A post was answered with a status. -/
def PostAnswered (status : Nat) (exchange : Said) : Prop :=
  ∃ request timeout response, exchange = ⟨.send request timeout, .ok response⟩ ∧
    request.method = .post ∧ response.status = status

/-- The request of a call was sent. -/
def Makes (live : Live) (call : Call) (exchange : Said) : Prop :=
  ∃ request answer, exchange = ⟨.send request live.timeout, answer⟩ ∧
    live.request call.method call.path call.body = .ok request ∧
    request.method = call.method ∧ request.body = call.body

theorem Sent.makes {call : Call} {exchange : Said} {reply : Reply}
    (h : live.Sent call [exchange] reply) : live.Makes call exchange := by
  cases h with
  | @answered request answer hbuilt => exact ⟨request, answer, rfl, hbuilt, request_eq_ok hbuilt⟩

theorem Makes.post_of_posts {call : Call} {exchange : Said} (h : live.Makes call exchange)
    (hposts : Posts exchange) : call.method = .post := by
  obtain ⟨request, answer, rfl, -, hmethod, -⟩ := h
  obtain ⟨request', timeout, answer', heq, hpost⟩ := hposts
  cases heq
  rw [← hmethod, hpost]

/-- A call that posts and gets a response was sent. -/
theorem Sent.postAnswered {call : Call} {said : List Said} {received : Received}
    (h : live.Sent call said (.ok received)) (hpost : call.method = .post) :
    ∃ exchange ∈ said, PostAnswered received.response.status exchange := by
  generalize hreply : (.ok received : Reply) = reply at h
  cases h with
  | unbuilt _ => exact absurd hreply nofun
  | @answered request answer hbuilt =>
      have hmethod : request.method = .post := (request_eq_ok hbuilt).1.trans hpost
      rcases answer with (cause | _) | response
      · exact absurd hreply nofun
      · exact absurd hreply nofun
      · obtain rfl := Except.ok.inj hreply
        exact ⟨_, List.mem_singleton_self _, request, live.timeout, response, rfl, hmethod, rfl⟩

/-- The reply to a post that was answered has the status of the answer. -/
theorem Sent.received_of_postAnswered {call : Call} {exchange : Said} {reply : Reply} {status : Nat}
    (h : live.Sent call [exchange] reply) (hanswered : PostAnswered status exchange) :
    call.method = .post ∧ ∃ received, reply = .ok received ∧ received.response.status = status := by
  obtain ⟨request, timeout, response, rfl, hpost, hstatus⟩ := hanswered
  cases h with
  | answered _ hbuilt =>
      exact ⟨(request_eq_ok hbuilt).1.symm.trans hpost, ⟨request.url.text, response⟩, rfl, hstatus⟩

theorem Sent.single {call : Call} {said : List Said} {reply : Reply} (h : live.Sent call said reply) :
    said = [] ∨ ∃ exchange, said = [exchange] := by
  cases h with
  | unbuilt _ => exact Or.inl rfl
  | answered _ _ => exact Or.inr ⟨_, rfl⟩

/-! ## Scripts with a post at the end -/

/-- What an operation sends that follows a script. A post is the last request, and what guards its call
    holds of the turns before it. The first answer that does not pass is the last one, too, and the
    operation fails with what it led to. -/
structure PostsLast (live : Live) (script : Script Stage) (start : Stage)
    (guarded : Call → List (Turn Stage) → Prop) (said : List Said) (result : Except Failure α)
    (turns : List (Turn Stage)) : Prop where
  walk : live.Walk script (some start) turns (result.map fun _ => none)
  requests : sent said = saidIn turns
  posts : ∀ before exchange after, sent said = before ++ exchange :: after → Posts exchange →
    after = [] ∧ ∃ earlier turn, turns = earlier ++ [turn] ∧ saidIn earlier = before ∧
      turn.said = [exchange] ∧ live.Makes (script.call turn.stage) exchange ∧
      guarded (script.call turn.stage) earlier
  fails : ∀ earlier turn later failure, turns = earlier ++ turn :: later →
    turn.outcome script = .error failure → later = [] ∧ result = .error failure

/-- The general case: the calls that post belong to stages that end the script, and what stands in front
    of such a stage is what guards its call. -/
theorem postsLast_of_walk {script : Script Stage} {start : Stage}
    {guarded : Call → List (Turn Stage) → Prop} {stands : Option Stage → List (Turn Stage) → Prop}
    {said : List Said} {result : Except Failure α} {turns : List (Turn Stage)}
    (hwalk : live.Walk script (some start) turns (result.map fun _ => none))
    (hsent : sent said = saidIn turns) (hstart : stands (some start) [])
    (hstep : ∀ stage said received place earlier, stands (some stage) earlier →
      script.next stage received = .ok place →
      stands place (earlier ++ [⟨stage, said, .ok received⟩]))
    (hlast : ∀ stage, (script.call stage).method = .post →
      ∀ received stage', script.next stage received ≠ .ok (some stage'))
    (hguards : ∀ stage earlier, (script.call stage).method = .post → stands (some stage) earlier →
      guarded (script.call stage) earlier) :
    PostsLast live script start guarded said result turns where
  walk := hwalk
  requests := hsent
  posts before exchange after hsaid hposts := by
    rw [hsent] at hsaid
    -- a turn sends at most one request, so a place among the requests is a place among the turns
    obtain ⟨earlier, turn, later, rfl, hturn, rfl, rfl⟩ :=
      saidIn_eq_append (fun turn hturn => (hwalk.sent turn hturn).single) hsaid
    have hsentTurn := hwalk.sent turn (List.mem_append_right _ List.mem_cons_self)
    rw [hturn] at hsentTurn
    have hpost := hsentTurn.makes.post_of_posts hposts
    have hstops : ∀ stage, turn.outcome script ≠ .ok (some stage) := by
      intro stage hnext
      obtain ⟨received, -, hnext⟩ := Turn.reply_of_outcome hnext
      exact hlast turn.stage hpost received stage hnext
    obtain rfl := hwalk.after_nil hstops rfl
    have hstands := (hwalk.stands hstep hstart).1 earlier turn [] rfl
    exact ⟨rfl, earlier, turn, rfl, rfl, hturn, hsentTurn.makes, hguards turn.stage earlier hpost hstands⟩
  fails earlier turn later failure hturns hfailed := by
    have hstops : ∀ stage, turn.outcome script ≠ .ok (some stage) := by
      intro stage hnext
      rw [hfailed] at hnext
      exact absurd hnext nofun
    have hmem : turn ∈ turns := hturns ▸ List.mem_append_right _ List.mem_cons_self
    refine ⟨hwalk.after_nil hstops hturns, ?_⟩
    have hended := hwalk.ending_of_failed hmem hfailed
    cases result with
    | ok value => exact absurd hended nofun
    | error met => exact congrArg Except.error (Except.error.inj hended)

theorem PostAnswered.posts {status : Nat} {exchange : Said} (h : PostAnswered status exchange) :
    Posts exchange := by
  obtain ⟨request, timeout, response, rfl, hpost, -⟩ := h
  exact ⟨request, timeout, _, rfl, hpost⟩

/-- A turn that posts and gets a response leaves an answered post among the requests. -/
theorem PostsLast.postAnswered {script : Script Stage} {start stage : Stage}
    {guarded : Call → List (Turn Stage) → Prop} {said now : List Said} {result : Except Failure α}
    {earlier : List (Turn Stage)} {received : Received}
    (h : PostsLast live script start guarded said result (earlier ++ [⟨stage, now, .ok received⟩]))
    (hpost : (script.call stage).method = .post) :
    ∃ exchange ∈ sent said, PostAnswered received.response.status exchange := by
  have hsent := h.walk.sent _ (List.mem_append_right _ (List.mem_singleton_self _))
  obtain ⟨exchange, hmem, hanswered⟩ := hsent.postAnswered hpost
  refine ⟨exchange, ?_, hanswered⟩
  rw [h.requests, saidIn_append]
  exact List.mem_append_right _ (List.mem_append_left _ hmem)

/-- A look was answered by the status of something that is missing. -/
def Turn.Misses (turn : Turn Stage) : Prop :=
  ∃ received, turn.reply = .ok received ∧ received.response.status = 404

theorem PostsLast.fails_of_mem {script : Script Stage} {start : Stage}
    {guarded : Call → List (Turn Stage) → Prop} {said : List Said} {result : Except Failure α}
    {turns : List (Turn Stage)} {turn : Turn Stage} {failure : Failure}
    (h : PostsLast live script start guarded said result turns) (hturn : turn ∈ turns)
    (hfailed : turn.outcome script = .error failure) : result = .error failure := by
  obtain ⟨earlier, later, rfl⟩ := List.append_of_mem hturn
  exact (h.fails earlier turn later failure rfl hfailed).2

/-! ## The repository -/

/-- A response shows a repository: it is successful, and its body is JSON. -/
def Shows (received : Received) : Prop :=
  received.response.isSuccess = true ∧ ∃ value, bodyJson received = .ok value

theorem shows_of_description {received : Received} {value : Json}
    (h : description owner name received = .ok value) : Shows received := by
  unfold description at h
  split at h
  · exact absurd h nofun
  · split at h
    · next hsuccess => exact ⟨hsuccess, value, jsonIn_eq_ok.1 h⟩
    · exact absurd h nofun

/-! ## Pull requests -/

/-- The stages of opening a pull request. -/
inductive PullStage where
  | seeRepository
  | askLogin
  | openPull (login : String)

/-- The calls that open a pull request and what their responses lead to. -/
def pullScript (known : Login) (owner name base head title body : String) : Script PullStage where
  call
    | .seeRepository => lookAt owner name
    | .askLogin => askUser
    | .openPull login => askForPull owner name base head title body login
  next
    | .seeRepository, received => (description owner name received).map fun _ =>
      match known with
      | some login => some (.openPull login)
      | none => some .askLogin
    | .askLogin, received => (loginIn received).map fun login => some (.openPull login)
    | .openPull _, received => (pullIn owner name title body received).map fun _ => none

/-- The repository was seen, and the login is known: from before, or from the answer after that. -/
inductive ReadyToOpen : Login → String → List (Turn PullStage) → Prop where
  | known {said : List Said} {received : Received} (login : String) (hshows : Shows received) :
      ReadyToOpen (some login) login [⟨.seeRepository, said, .ok received⟩]
  | asked {said said' : List Said} {received received' : Received} {login : String}
      (hshows : Shows received) (htells : TellsLogin login received') :
      ReadyToOpen none login [⟨.seeRepository, said, .ok received⟩, ⟨.askLogin, said', .ok received'⟩]

/-- What guards a post: it opens the pull request from a branch of a login, and all is ready for that. -/
def OpensReady (known : Login) (owner name base head title body : String) (call : Call)
    (earlier : List (Turn PullStage)) : Prop :=
  ∃ login, call = askForPull owner name base head title body login ∧ ReadyToOpen known login earlier

/-- What the turns so far are where a pull request is being opened. -/
def PullStands (known : Login) : Option PullStage → List (Turn PullStage) → Prop
  | some .seeRepository, earlier => earlier = []
  | some .askLogin, earlier => known = none ∧ ∃ said received, Shows received ∧
    earlier = [⟨.seeRepository, said, .ok received⟩]
  | some (.openPull login), earlier => ReadyToOpen known login earlier
  | none, turns => ∃ earlier login said received,
    turns = earlier ++ [⟨.openPull login, said, .ok received⟩] ∧ received.response.status = 201

theorem status_of_pullIn {received : Received} {pull : PullRequest}
    (h : pullIn owner name title body received = .ok pull) : received.response.status = 201 := by
  unfold pullIn at h
  dsimp only at h
  split at h
  · exact absurd h nofun
  · next hstatus => exact Decidable.not_not.1 hstatus

theorem pullStands_next (stage : PullStage) (said : List Said) (received : Received)
    (place : Option PullStage) (earlier : List (Turn PullStage))
    (hstands : PullStands known (some stage) earlier)
    (hnext : (pullScript known owner name base head title body).next stage received = .ok place) :
    PullStands known place (earlier ++ [⟨stage, said, .ok received⟩]) := by
  cases stage with
  | seeRepository =>
      obtain rfl := hstands
      obtain ⟨value, hdescription, rfl⟩ := map_eq_ok.1 hnext
      have hshows := shows_of_description hdescription
      cases known with
      | some login => exact .known login hshows
      | none => exact ⟨rfl, said, received, hshows, rfl⟩
  | askLogin =>
      obtain ⟨rfl, said', received', hshows, rfl⟩ := hstands
      obtain ⟨login, hlogin, rfl⟩ := map_eq_ok.1 hnext
      exact .asked hshows (loginIn_eq_ok.1 hlogin)
  | openPull login =>
      obtain ⟨pull, hpull, rfl⟩ := map_eq_ok.1 hnext
      exact ⟨earlier, login, said, received, rfl, status_of_pullIn hpull⟩

theorem leads_createPullRequest {said : List Said} {ended : Except Failure PullRequest × Login}
    (h : ((live.createPullRequest owner name base head title body).run.run known).Leads said ended) :
    (live.repository owner name >>= fun _ =>
      live.withLogin (live.openPullRequest owner name base head title body) known).run.Leads said
        ended.1 := by
  refine Dialogue.leads_run_bind_iff.2 ?_
  rcases leads_plainly_bind h with ⟨failure, rfl, hfirst⟩ | ⟨now, value, later, rfl, hfirst, hrest⟩
  · exact Or.inl ⟨failure, rfl, hfirst⟩
  · exact Or.inr ⟨now, value, later, rfl, hfirst, leads_login_bind hrest⟩

theorem follows_createPullRequest (live : Live) (owner name base head title body : String)
    (known : Login) :
    live.Follows (pullScript known owner name base head title body) (some .seeRepository)
      (fun _ => none) (live.repository owner name >>= fun _ =>
        live.withLogin (live.openPullRequest owner name base head title body) known) := by
  have hopen : ∀ login, live.Follows (pullScript known owner name base head title body)
      (some (.openPull login)) (fun _ => none)
      (live.openPullRequest owner name base head title body login) := fun login =>
    (live.judges_openPullRequest owner name base head title body login).follows fun _ => rfl
  have hsee : live.Follows (pullScript known owner name base head title body) (some .seeRepository)
      (fun _ => match known with
        | some login => some (.openPull login)
        | none => some .askLogin) (live.repository owner name) :=
    (live.judges_repository owner name).follows fun _ => rfl
  refine hsee.bind fun _ => ?_
  cases known with
  | some login => exact hopen login
  | none =>
      have hlogin : live.Follows (pullScript none owner name base head title body) (some .askLogin)
          (fun login => some (.openPull login)) live.fetchLogin :=
        live.judges_fetchLogin.follows fun _ => rfl
      exact hlogin.bind hopen

theorem pull_repository_missing {turn : Turn PullStage} (hstage : turn.stage = .seeRepository)
    (hmisses : turn.Misses) : turn.outcome (pullScript known owner name base head title body) =
      .error (.platform (.repositoryNotFound owner name)) := by
  obtain ⟨stage, said, reply⟩ := turn
  obtain ⟨received, rfl, hmissing⟩ := hmisses
  subst hstage
  exact map_eq_error.2 (description_of_notFound hmissing)

/-- Opening a pull request is the only call of the script that posts, and nothing follows it. -/
theorem pull_postsLast {said : List Said} {result : Except Failure α} {turns : List (Turn PullStage)}
    (hwalk : live.Walk (pullScript known owner name base head title body) (some .seeRepository) turns
      (result.map fun _ => none)) (hsent : sent said = saidIn turns) :
    PostsLast live (pullScript known owner name base head title body) .seeRepository
      (OpensReady known owner name base head title body) said result turns := by
  refine postsLast_of_walk hwalk hsent rfl pullStands_next ?_ ?_
  · intro stage hpost received stage' hnext
    cases stage with
    | openPull login =>
        obtain ⟨_, -, hnone⟩ := map_eq_ok.1 hnext
        exact absurd hnone nofun
    | seeRepository | askLogin => exact absurd hpost nofun
  · intro stage earlier hpost hstands
    cases stage with
    | openPull login => exact ⟨login, rfl, hstands⟩
    | seeRepository | askLogin => exact absurd hpost nofun

theorem createPullRequest_postsLast (live : Live) (owner name base head title body : String)
    (known : Login) {said : List Said} {ended : Except Failure PullRequest × Login}
    (h : ((live.createPullRequest owner name base head title body).run.run known).Leads said ended) :
    ∃ turns, PostsLast live (pullScript known owner name base head title body) .seeRepository
        (OpensReady known owner name base head title body) said ended.1 turns ∧
      (∀ turn ∈ turns, turn.stage = .seeRepository → turn.Misses →
        ended.1 = .error (.platform (.repositoryNotFound owner name))) ∧
      (∀ pull, ended.1 = .ok pull → ∃ exchange ∈ sent said, PostAnswered 201 exchange) := by
  obtain ⟨turns, hwalk, hsent⟩ :=
    live.follows_createPullRequest owner name base head title body known said ended.1
      (leads_createPullRequest h)
  have hlast := pull_postsLast hwalk hsent
  refine ⟨turns, hlast, fun turn hturn hstage hmisses => ?_, fun pull hpull => ?_⟩
  · exact hlast.fails_of_mem hturn (pull_repository_missing hstage hmisses)
  · -- the walk came to its end, which the script has only behind the status of something created
    rw [hpull] at hwalk
    obtain ⟨earlier, login, now, received, rfl, hstatus⟩ := (hwalk.stands pullStands_next rfl).2 none rfl
    rw [← hstatus]
    exact hlast.postAnswered rfl

/-! ## Comments -/

/-- The stages of a comment. -/
inductive CommentStage where
  | seeRepository
  | seePull
  | addComment

/-- The call that looks at a pull request. -/
def lookAtPull (owner name : String) (number : UInt64) : Call :=
  ⟨.get, s!"{repositoryPath owner name}/pulls/{number.toNat}", none⟩

/-- The call that adds a comment. -/
def askForComment (owner name : String) (number : UInt64) (body : String) : Call :=
  ⟨.post, s!"{repositoryPath owner name}/issues/{number.toNat}/comments",
    some (.object [("body", .string body)])⟩

/-- What a response tells about a pull request, which has to exist. -/
def pullSeen (owner name : String) (number : UInt64) (received : Received) : Except Failure Unit :=
  if received.response.status = 404 then .error (.platform (.pullRequestNotFound owner name number))
  else accepted "Could not read pull request" s!"{owner}/{name}#{number.toNat}" received

/-- Whether a comment was added, as a response tells. -/
def commentAdded (owner name : String) (number : UInt64) (received : Received) : Except Failure Unit :=
  if received.response.status ≠ 201 then
    .error (.platform (.failed "Could not comment on pull request" s!"{owner}/{name}#{number.toNat}"
      received.response.status))
  else .ok ()

theorem pullSeen_eq_ok {received : Received} {value : Unit} :
    pullSeen owner name number received = .ok value ↔
      received.response.status ≠ 404 ∧ received.response.isSuccess = true := by
  unfold pullSeen
  split
  · next hmissing => simp [hmissing]
  · next hthere => simp [hthere, accepted_eq_ok]

theorem pullSeen_of_missing {received : Received} (h : received.response.status = 404) :
    pullSeen owner name number received = .error (.platform (.pullRequestNotFound owner name number)) :=
  if_pos h

theorem commentAdded_eq_ok {received : Received} {value : Unit} :
    commentAdded owner name number received = .ok value ↔ received.response.status = 201 := by
  unfold commentAdded
  split
  · next hrefused => simp [hrefused]
  · next hcreated => simpa using hcreated

/-- The calls of a comment and what their responses lead to. -/
def commentScript (owner name : String) (number : UInt64) (body : String) : Script CommentStage where
  call
    | .seeRepository => lookAt owner name
    | .seePull => lookAtPull owner name number
    | .addComment => askForComment owner name number body
  next
    | .seeRepository, received => (description owner name received).map fun _ => some .seePull
    | .seePull, received => (pullSeen owner name number received).map fun _ => some .addComment
    | .addComment, received => (commentAdded owner name number received).map fun _ => none

theorem follows_addComment (live : Live) (owner name : String) (number : UInt64) (body : String) :
    live.Follows (commentScript owner name number body) (some .seeRepository) (fun _ => none)
      (live.addComment owner name number body) := by
  have hsee : live.Follows (commentScript owner name number body) (some .seeRepository)
      (fun _ => some .seePull) (live.repository owner name) :=
    (live.judges_repository owner name).follows fun _ => rfl
  refine hsee.bind fun _ => ?_
  dsimp only
  refine follows_send_bind rfl (fun seen failure hnext => ?_) fun seen place hnext => ?_
  · have hfailed := map_eq_error.1 hnext
    unfold pullSeen accepted at hfailed
    split at hfailed
    · next hmissing =>
      obtain rfl := Except.error.inj hfailed
      rw [if_pos hmissing]
      exact (settles_failPlatform _).error_bind _
    · next hthere =>
      split at hfailed
      · exact absurd hfailed nofun
      · next hrefused =>
        obtain rfl := Except.error.inj hfailed
        rw [if_neg hthere, if_pos (by simpa using hrefused)]
        exact (settles_failed _).error_bind _
  · obtain ⟨_, hseen, rfl⟩ := map_eq_ok.1 hnext
    obtain ⟨hthere, hsuccess⟩ := pullSeen_eq_ok.1 hseen
    rw [if_neg hthere, if_neg (by simp [hsuccess])]
    refine follows_send_bind rfl (fun received failure hnext => ?_) fun received place hnext => ?_
    · have hfailed := map_eq_error.1 hnext
      unfold commentAdded at hfailed
      split at hfailed
      · next hrefused =>
        obtain rfl := Except.error.inj hfailed
        rw [if_pos hrefused]
        exact (settles_failed _).error_bind _
      · exact absurd hfailed nofun
    · obtain ⟨_, hadded, rfl⟩ := map_eq_ok.1 hnext
      rw [if_neg (not_not_intro (commentAdded_eq_ok.1 hadded))]
      exact follows_tell rfl

/-- The repository and the pull request were seen. -/
inductive ReadyToComment : List (Turn CommentStage) → Prop where
  | seen {said said' : List Said} {received received' : Received} (hshows : Shows received)
      (hseen : received'.response.isSuccess = true) :
      ReadyToComment [⟨.seeRepository, said, .ok received⟩, ⟨.seePull, said', .ok received'⟩]

/-- What guards a post: it adds the comment, and all is ready for that. -/
def AddsReady (owner name : String) (number : UInt64) (body : String) (call : Call)
    (earlier : List (Turn CommentStage)) : Prop :=
  call = askForComment owner name number body ∧ ReadyToComment earlier

/-- What the turns so far are where a comment is being added. -/
def CommentStands : Option CommentStage → List (Turn CommentStage) → Prop
  | some .seeRepository, earlier => earlier = []
  | some .seePull, earlier => ∃ said received, Shows received ∧
    earlier = [⟨.seeRepository, said, .ok received⟩]
  | some .addComment, earlier => ReadyToComment earlier
  | none, turns => ∃ earlier said received,
    turns = earlier ++ [⟨.addComment, said, .ok received⟩] ∧ received.response.status = 201

theorem commentStands_next (stage : CommentStage) (said : List Said) (received : Received)
    (place : Option CommentStage) (earlier : List (Turn CommentStage))
    (hstands : CommentStands (some stage) earlier)
    (hnext : (commentScript owner name number body).next stage received = .ok place) :
    CommentStands place (earlier ++ [⟨stage, said, .ok received⟩]) := by
  cases stage with
  | seeRepository =>
      obtain rfl := hstands
      obtain ⟨value, hdescription, rfl⟩ := map_eq_ok.1 hnext
      exact ⟨said, received, shows_of_description hdescription, rfl⟩
  | seePull =>
      obtain ⟨said', received', hshows, rfl⟩ := hstands
      obtain ⟨_, hseen, rfl⟩ := map_eq_ok.1 hnext
      exact .seen hshows (pullSeen_eq_ok.1 hseen).2
  | addComment =>
      obtain ⟨_, hadded, rfl⟩ := map_eq_ok.1 hnext
      exact ⟨earlier, said, received, rfl, commentAdded_eq_ok.1 hadded⟩

theorem comment_repository_missing {turn : Turn CommentStage} (hstage : turn.stage = .seeRepository)
    (hmisses : turn.Misses) : turn.outcome (commentScript owner name number body) =
      .error (.platform (.repositoryNotFound owner name)) := by
  obtain ⟨stage, said, reply⟩ := turn
  obtain ⟨received, rfl, hmissing⟩ := hmisses
  subst hstage
  exact map_eq_error.2 (description_of_notFound hmissing)

theorem comment_pull_missing {turn : Turn CommentStage} (hstage : turn.stage = .seePull)
    (hmisses : turn.Misses) : turn.outcome (commentScript owner name number body) =
      .error (.platform (.pullRequestNotFound owner name number)) := by
  obtain ⟨stage, said, reply⟩ := turn
  obtain ⟨received, rfl, hmissing⟩ := hmisses
  subst hstage
  exact map_eq_error.2 (pullSeen_of_missing hmissing)

/-- Adding the comment is the only call of the script that posts, and nothing follows it. -/
theorem addComment_postsLast {said : List Said} {result : Except Failure α}
    {turns : List (Turn CommentStage)}
    (hwalk : live.Walk (commentScript owner name number body) (some .seeRepository) turns
      (result.map fun _ => none)) (hsent : sent said = saidIn turns) :
    PostsLast live (commentScript owner name number body) .seeRepository
      (AddsReady owner name number body) said result turns := by
  refine postsLast_of_walk hwalk hsent rfl commentStands_next ?_ ?_
  · intro stage hpost received stage' hnext
    cases stage with
    | addComment =>
        obtain ⟨_, -, hnone⟩ := map_eq_ok.1 hnext
        exact absurd hnone nofun
    | seeRepository | seePull => exact absurd hpost nofun
  · intro stage earlier hpost hstands
    cases stage with
    | addComment => exact ⟨rfl, hstands⟩
    | seeRepository | seePull => exact absurd hpost nofun

/-- A comment whose post was answered with the status of something created succeeds. -/
theorem comment_ok_of_postAnswered {said : List Said} {result : Except Failure Unit}
    {turns : List (Turn CommentStage)} {guarded : Call → List (Turn CommentStage) → Prop}
    (h : PostsLast live (commentScript owner name number body) .seeRepository guarded said result turns)
    (hanswered : ∃ exchange ∈ sent said, PostAnswered 201 exchange) : result = .ok () := by
  obtain ⟨exchange, hmem, hanswered⟩ := hanswered
  obtain ⟨before, after, hsaid⟩ := List.append_of_mem hmem
  obtain ⟨-, earlier, ⟨stage, now, reply⟩, rfl, -, hnow, -, -⟩ :=
    h.posts before exchange after hsaid hanswered.posts
  obtain rfl : now = [exchange] := hnow
  have hsent := h.walk.sent _ (List.mem_append_right _ (List.mem_singleton_self _))
  obtain ⟨hpost, received, rfl, hstatus⟩ := hsent.received_of_postAnswered hanswered
  cases stage with
  | addComment =>
      cases result with
      | ok _ => rfl
      | error failure =>
          -- the last turn is the one that fails, but it was answered as it should be
          obtain ⟨_, last, hturns, -, hfailed⟩ := h.walk.failure_last
          obtain ⟨-, rfl⟩ := List.append_inj' hturns rfl |>.imp_right List.singleton_inj.1
          have hadded : commentAdded owner name number received = .ok () := commentAdded_eq_ok.2 hstatus
          have hfailed' : commentAdded owner name number received = .error failure :=
            map_eq_error.1 hfailed
          rw [hadded] at hfailed'
          exact absurd hfailed' nofun
  | seeRepository | seePull => exact absurd hpost nofun

theorem comment_postsLast (live : Live) (owner name : String) (number : UInt64) (body : String)
    (known : Login) {said : List Said} {ended : Except Failure Unit × Login}
    (h : ((live.comment owner name number body).run.run known).Leads said ended) :
    ∃ turns, PostsLast live (commentScript owner name number body) .seeRepository
        (AddsReady owner name number body) said ended.1 turns ∧
      (∀ turn ∈ turns, turn.stage = .seeRepository → turn.Misses →
        ended.1 = .error (.platform (.repositoryNotFound owner name))) ∧
      (∀ turn ∈ turns, turn.stage = .seePull → turn.Misses →
        ended.1 = .error (.platform (.pullRequestNotFound owner name number))) ∧
      (ended.1 = .ok () ↔ ∃ exchange ∈ sent said, PostAnswered 201 exchange) := by
  obtain ⟨turns, hwalk, hsent⟩ :=
    live.follows_addComment owner name number body said ended.1 (leads_plainly h).1
  have hlast := addComment_postsLast hwalk hsent
  refine ⟨turns, hlast, fun turn hturn hstage hmisses => ?_, fun turn hturn hstage hmisses => ?_,
    fun hok => ?_, comment_ok_of_postAnswered hlast⟩
  · exact hlast.fails_of_mem hturn (comment_repository_missing hstage hmisses)
  · exact hlast.fails_of_mem hturn (comment_pull_missing hstage hmisses)
  · rw [hok] at hwalk
    obtain ⟨earlier, now, received, rfl, hstatus⟩ := (hwalk.stands commentStands_next rfl).2 none rfl
    rw [← hstatus]
    exact hlast.postAnswered rfl

/-! ## Both operations -/

/-- **Posts come last.** Whatever the platform answers, and whether the login is known or not: where a pull
    request is opened, a post is the last request, and it is the call that opens the pull request from a
    branch of the login, after the repository was seen and with a login that was known or was told on the
    way; where a comment is added, a post is the last request, too, and it is the call that adds the
    comment, after the repository and the pull request were seen. No request follows the first answer that
    does not pass. A status of a missing repository or pull request is the failure that says so. Success
    means that the post was answered with the status of something created, and a comment succeeds whenever
    it was. -/
theorem posts_come_last (live : Live) (owner name base head title body : String) (number : UInt64)
    (known : Login) (platform : Oracle Host.Answer) (past : List Said) :
    (let said := ((live.createPullRequest owner name base head title body).run.run known).transcript
        platform past
      let result := said.2.1
      ∃ turns, PostsLast live (pullScript known owner name base head title body) .seeRepository
          (OpensReady known owner name base head title body) said.1 result turns ∧
        (∀ turn ∈ turns, turn.stage = .seeRepository → turn.Misses →
          result = .error (.platform (.repositoryNotFound owner name))) ∧
        (∀ pull, result = .ok pull → ∃ exchange ∈ sent said.1, PostAnswered 201 exchange)) ∧
    (let said := ((live.comment owner name number body).run.run known).transcript platform past
      let result := said.2.1
      ∃ turns, PostsLast live (commentScript owner name number body) .seeRepository
          (AddsReady owner name number body) said.1 result turns ∧
        (∀ turn ∈ turns, turn.stage = .seeRepository → turn.Misses →
          result = .error (.platform (.repositoryNotFound owner name))) ∧
        (∀ turn ∈ turns, turn.stage = .seePull → turn.Misses →
          result = .error (.platform (.pullRequestNotFound owner name number))) ∧
        (result = .ok () ↔ ∃ exchange ∈ sent said.1, PostAnswered 201 exchange)) := by
  constructor
  · exact live.createPullRequest_postsLast owner name base head title body known
      (Dialogue.leads_transcript platform past _)
  · exact live.comment_postsLast owner name number body known (Dialogue.leads_transcript platform past _)

end PullRequestBot.Live
