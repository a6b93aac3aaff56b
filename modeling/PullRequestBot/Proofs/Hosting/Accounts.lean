import PullRequestBot.Proofs.Git.Locality
import PullRequestBot.Proofs.Hosting.Ledger
import PullRequestBot.Proofs.Hosting.Posting
import PullRequestBot.Proofs.Hosting.QuotaAnswer
import PullRequestBot.Proofs.Hosting.Task

set_option autoImplicit false

/-! # The calls of operations

Every operation of the live backend makes certain calls, one after the other, up to the first that fails
(`MakesCalls`), and where it needs the login, it gives what the login says (`GivesLogin`). The calls account
for all its requests, and their entry in the ledger for what becomes of the login (`exists_accounts`). -/

namespace PullRequestBot.Live

open Backend (Task)

variable {α : Type} {live : Live} {owner name base head title body login : String}
  {known after : Login} {said : List Said}

/-! ## What an operation does with the login -/

/-- An operation that needs the login, where it is not known, asks for the account. Opening a pull request
    comes to that only after a look at the repository. -/
def AsksLogin (calls : List (Made live)) : (task : Task) → Except Failure task.Result → Prop
  | .login, _ | .fork _ _, _ | .originUrl _ _, _ | .prepare _ _ _ _ _, _ =>
    ∃ made ∈ calls, made.call = askUser
  | .createPullRequest owner name _ _ _ _, result =>
    (∃ made ∈ calls, made.call = askUser) ∨
      ∃ (look : Made live) (failure : Failure), calls = [look] ∧ look.call = lookAt owner name ∧
        judge (description owner name) look.reply = .error failure ∧ result = .error failure
  | .repositoryExists _ _, _ | .push _ _ _ _, _ | .comment _ _ _ _, _ | .requestsLeft, _ => True

/-- The calls of a comment that meets no failure. -/
def commentCalls (owner name : String) (number : UInt64) (body : String) : List Call :=
  [lookAt owner name, lookAtPull owner name number, askForComment owner name number body]

/-- The calls that an operation makes with a login, or the first of them. Before it, the login may be known or
    not. -/
def MakesCalls (live : Live) (known : Login) (login : String) (calls : List Call) : Task → Prop
  | .login | .originUrl _ _ | .prepare _ _ _ _ _ => calls = loginCalls known
  | .fork owner name => ∃ course : ForkCourse live.timing.attempts, course.login = login ∧
    calls <+: loginCalls known ++ course.calls owner name
  | .createPullRequest owner name base head title body =>
    calls <+: lookAt owner name ::
      (loginCalls known ++ [askForPull owner name base head title body login])
  | .repositoryExists owner name => calls = [lookAt owner name]
  | .push _ _ _ _ => calls = []
  | .comment owner name number body => calls <+: commentCalls owner name number body
  | .requestsLeft => calls = [askQuota]

/-- An operation that is about the login gives what the login says. Before it, the login may be known or
    not. -/
def GivesLogin (live : Live) (login : String) (known : Login) (said : List Said) :
    (task : Task) → Except Failure task.Result → Prop
  | .login, result => result = .ok login
  | .originUrl _ name, result => result = .ok (publicUrl login name)
  | .prepare owner name directory newBranch baseBranch, result =>
    ∃ asked branched outcome, said = asked ++ branched ∧
      ((live.originUrl owner name).run.run known).Leads asked (.ok (publicUrl login name), some login) ∧
      (live.client.branch ⟨publicUrl login name, directory, publicUrl owner name, newBranch,
        baseBranch⟩).run.Leads branched outcome ∧
      result = outcome.map fun _ => ()
  | .repositoryExists _ _, _ | .fork _ _, _ | .push _ _ _ _, _ | .createPullRequest _ _ _ _ _ _, _
  | .comment _ _ _ _, _ | .requestsLeft, _ => True

/-- The calls of an operation account for all its requests, and for what becomes of the login. Where the
    login is not known in the end, they are those of any login. -/
structure Accounts (live : Live) (task : Task) (known : Login) (said : List Said)
    (result : Except Failure task.Result) (after : Login) (calls : List (Made live)) : Prop where
  requests : sent said = requestsOf calls
  ledger : Ledger live known calls result after
  asks : known = none → AsksLogin calls task result
  makes : ∀ login, MakesCalls live known (after.getD login) (calls.map Made.call) task
  gives : ∀ login, after = some login → GivesLogin live login known said task result

/-! ## Operations without the login -/

/-- What stays local sends nothing. -/
theorem sent_eq_nil_of_local {job : Job α} {value : α} (h : Git.StaysLocal (fun _ => True) job)
    (hleads : job.Leads said value) : sent said = [] := by
  refine List.filter_eq_nil_iff.2 fun exchange hmem => ?_
  have hlocal := (h.leads hleads).1 exchange hmem
  obtain ⟨question, answer⟩ := exchange
  cases question with
  | send _ _ => exact absurd hlocal id
  | _ => exact Bool.false_ne_true

theorem quiet_single {made : Made live} {call : Call} (hcall : made.call = call) (hne : call ≠ askUser) :
    Quiet ([made].map Made.call) := by
  rw [List.map_singleton, hcall]
  exact quiet_cons.2 ⟨hne, quiet_nil⟩

theorem accounts_repositoryExists {result : Except Failure Bool}
    (h : ((live.repositoryExists owner name).run.run known).Leads said (result, after)) :
    ∃ calls, Accounts live (.repositoryExists owner name) known said result after calls := by
  obtain ⟨hlook, hknown⟩ := leads_plainly h
  obtain rfl : after = known := hknown
  obtain ⟨made, hcall, hsent, -⟩ := (live.judges_checkRepository owner name).made hlook
  refine ⟨[made], hsent, .kept (quiet_single hcall (lookAt_ne_askUser owner name)), fun _ => trivial,
    fun _ => ?_, fun _ _ => trivial⟩
  exact congrArg (fun call => [call]) hcall

theorem accounts_push {directory branch : String} {result : Except Failure Unit}
    (h : ((live.push owner name directory branch).run.run known).Leads said (result, after)) :
    ∃ calls, Accounts live (.push owner name directory branch) known said result after calls := by
  obtain ⟨hpush, hknown⟩ := leads_plainly h
  obtain rfl : after = known := hknown
  have hlocal : Git.TriesLocally (fun _ => True) (do
      live.client.push directory (remoteUrl owner name .withToken (some live.token)) branch
      Host.tell .info .live "pushed"
        [("repository", .plain s!"{owner}/{name}"), ("branch", .quoted branch)]) :=
    (live.client.triesLocally_perform directory trivial).bind fun _ => Git.triesLocally_tell
  exact ⟨[], sent_eq_nil_of_local hlocal hpush, .kept quiet_nil, fun _ => trivial, fun _ => rfl,
    fun _ _ => trivial⟩

/-- The calls that a comment that meets no failure makes from a place on. -/
def CommentCalls (owner name : String) (number : UInt64) (body : String) :
    Option CommentStage → List Call → Prop
  | some .seeRepository, calls => calls = commentCalls owner name number body
  | some .seePull, calls => calls = (commentCalls owner name number body).drop 1
  | some .addComment, calls => calls = (commentCalls owner name number body).drop 2
  | none, calls => calls = []

/-- A comment makes its calls in turn, up to one that fails. -/
theorem comment_calls {number : UInt64} {turns : List (Turn CommentStage)} {result : Except Failure Unit}
    (h : live.Walk (commentScript owner name number body) (some .seeRepository) turns
      (result.map fun _ => none)) :
    callsIn (commentScript owner name number body) turns <+: commentCalls owner name number body := by
  have hnone : CommentCalls owner name number body none [] := rfl
  have hstep : ∀ stage received place calls,
      (commentScript owner name number body).next stage received = .ok place →
        CommentCalls owner name number body place calls →
        CommentCalls owner name number body (some stage)
          ((commentScript owner name number body).call stage :: calls) := by
    intro stage received place calls hnext hcalls
    cases stage with
    | seeRepository | seePull | addComment =>
        obtain ⟨_, -, rfl⟩ := Result.map_eq_ok.1 hnext
        obtain rfl := hcalls
        rfl
  have hexist : ∀ stage, ∃ calls, CommentCalls owner name number body (some stage)
      ((commentScript owner name number body).call stage :: calls) := by
    intro stage
    cases stage with
    | seeRepository | seePull | addComment => exact ⟨_, rfl⟩
  obtain ⟨calls, rfl, hprefix, -⟩ := Walk.calls_prefix hnone hstep hexist h (map_none_ne result)
  exact hprefix

theorem lookAtPull_ne_askUser (owner name : String) (number : UInt64) :
    lookAtPull owner name number ≠ askUser :=
  ne_askUser (by simp [lookAtPull, repositoryPath, toString])

theorem quiet_commentCalls (owner name : String) (number : UInt64) (body : String) :
    Quiet (commentCalls owner name number body) :=
  quiet_cons.2 ⟨lookAt_ne_askUser owner name, quiet_cons.2 ⟨lookAtPull_ne_askUser owner name number,
    quiet_cons.2 ⟨ne_askUser_of_post rfl, quiet_nil⟩⟩⟩

theorem accounts_comment {number : UInt64} {result : Except Failure Unit}
    (h : ((live.comment owner name number body).run.run known).Leads said (result, after)) :
    ∃ calls, Accounts live (.comment owner name number body) known said result after calls := by
  obtain ⟨hcomment, hknown⟩ := leads_plainly h
  obtain rfl : after = known := hknown
  obtain ⟨turns, hwalk, hsent⟩ := live.follows_addComment owner name number body said result hcomment
  obtain ⟨calls, hcalls, hsaid⟩ := hwalk.made
  have hmakes := comment_calls hwalk
  rw [← hcalls] at hmakes
  have hquiet := (quiet_commentCalls owner name number body).of_subset hmakes.subset
  exact ⟨calls, hsent.trans hsaid, .kept hquiet, fun _ => trivial, fun _ => hmakes, fun _ _ => trivial⟩

theorem accounts_requestsLeft {result : Except Failure Quota}
    (h : (live.requestsLeft.run.run known).Leads said (result, after)) :
    ∃ calls, Accounts live .requestsLeft known said result after calls := by
  obtain ⟨quota, hended, hquota⟩ := leads_requestsLeft h
  obtain ⟨rfl, rfl⟩ := Prod.mk.inj hended
  obtain ⟨now, later, reply, rfl, hsent, hlater, -, -⟩ := quota_of_reply hquota
  have hquiet : Quiet [askQuota] := quiet_cons.2 ⟨ne_askUser (by decide), quiet_nil⟩
  refine ⟨[⟨askQuota, now, reply, hsent⟩], ?_, .kept hquiet, fun _ => trivial, fun _ => rfl,
    fun _ _ => trivial⟩
  rw [sent_append, hsent.sent_eq, hlater]
  rfl

/-! ## Operations with the login -/

/-- An operation that comes to the login after some calls. Where the account is not told, it ends there, and
    else goes on with the login. -/
theorem accounts_of_login {task : Task} {next : String → Act task.Result}
    {result : Except Failure task.Result} {rest : List Said} (now : List Said) (earlier : List (Made live))
    (hnow : sent now = requestsOf earlier) (hearlier : Quiet (earlier.map Made.call))
    (h : ((live.login >>= next).run.run known).Leads rest (result, after))
    (hasks : ∀ calls : List (Made live), (∃ made ∈ calls, made.call = askUser) →
      AsksLogin calls task result)
    (hends : ∀ login, MakesCalls live known login (earlier.map Made.call ++ loginCalls known) task)
    (hnext : ∀ login asked later, ((next login).run.run (some login)).Leads later (result, after) →
      ∃ calls : List (Made live), after = some login ∧ sent later = requestsOf calls ∧
        Quiet (calls.map Made.call) ∧
        MakesCalls live known login
          (earlier.map Made.call ++ (loginCalls known ++ calls.map Made.call)) task ∧
        GivesLogin live login known (now ++ (asked ++ later)) task result) :
    ∃ calls, Accounts live task known (now ++ rest) result after calls := by
  rcases leads_login_then h with
    ⟨calls, failure, after, hsent, hconsults, hended⟩ |
      ⟨asked, later, calls, login, rfl, hsent, hconsults, hrest⟩
  · -- the account is not told, and nothing follows
    obtain ⟨rfl, rfl⟩ := Prod.mk.inj hended
    refine ⟨earlier ++ calls, ?_, hconsults.ledger_of_error hearlier, ?_, ?_, ?_⟩
    · rw [sent_append, hnow, hsent, requestsOf_append]
    · rintro rfl
      obtain ⟨made, hmem, hcall⟩ := hconsults.asks
      exact hasks _ ⟨made, List.mem_append_right _ hmem, hcall⟩
    · intro login
      rw [List.map_append, hconsults.calls_eq]
      exact hends _
    · rintro login rfl
      exact absurd hconsults nofun
  · obtain ⟨last, rfl, hlater, hquiet, hmakes, hgives⟩ := hnext login asked later hrest
    refine ⟨earlier ++ (calls ++ last), ?_, hconsults.ledger_of_ok hearlier hquiet, ?_, ?_, ?_⟩
    · rw [sent_append, sent_append, hnow, hsent, hlater, requestsOf_append, requestsOf_append]
    · rintro rfl
      obtain ⟨made, hmem, hcall⟩ := hconsults.asks
      exact hasks _ ⟨made, List.mem_append_right _ (List.mem_append_left _ hmem), hcall⟩
    · intro _
      rw [List.map_append, List.map_append, hconsults.calls_eq]
      exact hmakes
    · intro login' heq
      obtain rfl := Option.some.inj heq
      exact hgives

/-- An operation that makes no other call than the one for the login. -/
theorem accounts_of_only_login {task : Task} {value : String → task.Result}
    {result : Except Failure task.Result}
    (h : ((live.login >>= fun login => pure (value login)).run.run known).Leads said (result, after))
    (hasks : ∀ calls : List (Made live), (∃ made ∈ calls, made.call = askUser) →
      AsksLogin calls task result)
    (hmakes : ∀ login, MakesCalls live known login (loginCalls known) task)
    (hgives : ∀ login said, GivesLogin live login known said task (.ok (value login))) :
    ∃ calls, Accounts live task known said result after calls := by
  refine accounts_of_login [] [] rfl quiet_nil h hasks hmakes ?_
  intro login asked later hend
  obtain ⟨rfl, hended⟩ := Dialogue.leads_done_iff.1 hend
  obtain ⟨rfl, rfl⟩ := Prod.mk.inj hended
  refine ⟨[], rfl, rfl, quiet_nil, ?_, hgives login _⟩
  rw [List.map_nil, List.append_nil]
  exact hmakes login

theorem accounts_login {result : Except Failure String}
    (h : (live.login.run.run known).Leads said (result, after)) :
    ∃ calls, Accounts live .login known said result after calls := by
  rw [← bind_pure live.login] at h
  exact accounts_of_only_login h (fun _ => id) (fun _ => rfl) fun _ _ => rfl

theorem accounts_originUrl {result : Except Failure String}
    (h : ((live.originUrl owner name).run.run known).Leads said (result, after)) :
    ∃ calls, Accounts live (.originUrl owner name) known said result after calls :=
  accounts_of_only_login h (fun _ => id) (fun _ => rfl) fun _ _ => rfl

/-- Once the login is known, a fork only looks at its parent and at itself, and posts. -/
theorem ForkCourse.cases_of_mem {attempts : Nat} {course : ForkCourse attempts} {call : Call}
    (h : call ∈ course.calls owner name) :
    call = lookAt owner name ∨ call = lookAt course.login name ∨ call.method = .post := by
  rcases List.mem_cons.1 h with rfl | h
  · exact Or.inr (Or.inl rfl)
  rcases List.mem_append.1 h with h | h
  · cases hlooks : course.looks with
    | none =>
        rw [hlooks] at h
        exact absurd h List.not_mem_nil
    | some looks =>
        rw [hlooks] at h
        rcases List.mem_cons.1 h with rfl | h
        · exact Or.inl rfl
        rcases List.mem_cons.1 h with rfl | h
        · exact Or.inr (Or.inr rfl)
        · exact Or.inr (Or.inl (List.eq_of_mem_replicate h))
  · rcases List.mem_append.1 h with h | h
    · rcases List.mem_cons.1 h with rfl | h
      · exact Or.inl rfl
      · exact Or.inr (Or.inl (List.mem_singleton.1 h))
    · cases hmismatch : course.mismatch with
      | none =>
          rw [hmismatch] at h
          exact absurd h List.not_mem_nil
      | some branches =>
          rw [hmismatch] at h
          obtain rfl := List.mem_singleton.1 h
          exact Or.inr (Or.inr rfl)

theorem ForkCourse.quiet {attempts : Nat} (course : ForkCourse attempts) (owner name : String) :
    Quiet (course.calls owner name) := by
  intro call hcall
  rcases course.cases_of_mem hcall with rfl | rfl | hpost
  · exact lookAt_ne_askUser owner name
  · exact lookAt_ne_askUser _ name
  · exact ne_askUser_of_post hpost

theorem accounts_fork {result : Except Failure Unit}
    (h : ((live.fork owner name).run.run known).Leads said (result, after)) :
    ∃ calls, Accounts live (.fork owner name) known said result after calls := by
  refine accounts_of_login [] [] rfl quiet_nil h (fun _ => id) ?_ ?_
  · exact fun login => ⟨⟨login, none, none⟩, rfl, List.prefix_append _ _⟩
  intro login asked later hrest
  obtain ⟨hfork, hknown⟩ := leads_plainly hrest
  -- the calls of a fork are the first ones of a course, all of them if it succeeds
  obtain ⟨turns, hwalk, hturns⟩ := live.follows_forkAs owner name login later result hfork
  obtain ⟨calls, hcalls, hsaid⟩ := hwalk.made
  obtain ⟨course, hlogin, hprefix, -⟩ :=
    @Walk.forkCalls live _ _ _ (some login) _ _ hwalk (map_none_ne result)
  have hmakes : calls.map Made.call <+: course.calls owner name := by
    rw [hcalls]
    exact hprefix
  refine ⟨calls, hknown, hturns.trans hsaid, (course.quiet owner name).of_subset hmakes.subset,
    ⟨course, hlogin login rfl, ?_⟩, trivial⟩
  show loginCalls known ++ _ <+: loginCalls known ++ _
  exact List.prefix_append_right_inj _ |>.2 hmakes

theorem accounts_createPullRequest {result : Except Failure PullRequest}
    (h : ((live.createPullRequest owner name base head title body).run.run known).Leads said
      (result, after)) :
    ∃ calls, Accounts live (.createPullRequest owner name base head title body) known said result after
      calls := by
  rcases leads_plainly_bind h with
    ⟨failure, hended, hlook⟩ | ⟨now, value, rest, rfl, hlook, hrest⟩
  · -- the look fails, and the login is not needed
    obtain ⟨rfl, rfl⟩ := Prod.mk.inj hended
    obtain ⟨look, hcall, hsent, hverdict⟩ := (live.judges_repository owner name).made hlook
    have hquiet := quiet_single hcall (lookAt_ne_askUser owner name)
    refine ⟨[look], hsent, .kept hquiet, ?_, ?_, fun _ _ => trivial⟩
    · exact fun _ => Or.inr ⟨look, failure, rfl, hcall, hverdict.symm, rfl⟩
    · intro login
      rw [List.map_singleton, hcall]
      exact List.prefix_append [_] _
  · obtain ⟨look, hcall, hsent, -⟩ := (live.judges_repository owner name).made hlook
    refine accounts_of_login now [look] hsent (quiet_single hcall (lookAt_ne_askUser owner name)) hrest
      (fun _ => Or.inl) ?_ ?_
    · intro login
      rw [List.map_singleton, hcall]
      exact List.cons_prefix_cons.2 ⟨rfl, List.prefix_append _ _⟩
    intro login asked later hrest
    obtain ⟨hopen, hknown⟩ := leads_plainly hrest
    obtain ⟨opening, hopening, hsentOpen, -⟩ :=
      (live.judges_openPullRequest owner name base head title body login).made hopen
    refine ⟨[opening], hknown, hsentOpen, quiet_single hopening (ne_askUser_of_post rfl), ?_, trivial⟩
    rw [List.map_singleton, List.map_singleton, hcall, hopening]
    exact List.prefix_rfl

/-- Branching with the git client of a backend leaves the backend as it is. -/
theorem leads_branching {inputs : Git.Branching} {backend : Backend}
    {ended : Except Failure Unit × Backend}
    (h : ((Backend.withClient (fun client => client.branch inputs) >>= fun _ =>
      pure () : Backend.Act Unit).run.run backend).Leads said ended) :
    ∃ outcome, (backend.client.branch inputs).run.Leads said outcome ∧
      ended.1 = outcome.map (fun _ => ()) ∧ ended.2 = backend := by
  rcases Dialogue.leads_stateful_bind_iff.1 h with
    ⟨failure, after, rfl, hattempt⟩ | ⟨now, steps, middle, later, rfl, hattempt, hend⟩
  · obtain ⟨hbranch, hafter⟩ := Backend.leads_withClient hattempt
    exact ⟨_, hbranch, rfl, hafter⟩
  · obtain ⟨hbranch, hafter⟩ := Backend.leads_withClient hattempt
    obtain ⟨rfl, rfl⟩ := Dialogue.leads_done_iff.1 hend
    rw [List.append_nil]
    exact ⟨_, hbranch, rfl, hafter⟩

theorem accounts_prepare {directory newBranch baseBranch : String} {result : Except Failure Unit}
    {backend : Backend}
    (h : ((Backend.prepare owner name directory newBranch baseBranch).run.run (.live live known)).Leads said
      (result, backend)) :
    ∃ after calls, backend = .live live after ∧
      Accounts live (.prepare owner name directory newBranch baseBranch) known said result after calls := by
  rcases Dialogue.leads_stateful_bind_iff.1 h with
    ⟨failure, ended, hended, horigin⟩ | ⟨asked, url, middle, later, rfl, horigin, hrest⟩
  · -- there is no address to clone
    obtain ⟨rfl, rfl⟩ := Prod.mk.inj hended
    obtain ⟨after, hafter, horigin⟩ := Backend.leads_dispatch_live horigin
    obtain ⟨calls, haccounts⟩ := accounts_originUrl horigin
    refine ⟨after, calls, hafter, haccounts.requests, haccounts.ledger.of_error, haccounts.asks,
      haccounts.makes, ?_⟩
    intro login hlogin
    exact absurd (haccounts.gives login hlogin) nofun
  · obtain ⟨after, hafter, horigin⟩ := Backend.leads_dispatch_live horigin
    obtain rfl : middle = .live live after := hafter
    obtain ⟨calls, haccounts⟩ := accounts_originUrl horigin
    obtain ⟨outcome, hbranch, hresult, rfl⟩ := leads_branching hrest
    have hlocal := sent_eq_nil_of_local (live.client.triesLocally_branch (fun _ _ => trivial) _) hbranch
    refine ⟨after, calls, rfl, ?_, haccounts.ledger.of_ok, haccounts.asks, haccounts.makes, ?_⟩
    · rw [sent_append, hlocal, List.append_nil]
      exact haccounts.requests
    · rintro login rfl
      obtain rfl := Except.ok.inj (haccounts.gives login rfl)
      exact ⟨asked, later, outcome, rfl, horigin, hbranch, hresult⟩

theorem accounts_of_dispatch {task : Task} {onLive : Live → Act task.Result}
    {onDryRun : DryRun → DryRun.Act task.Result} {result : Except Failure task.Result}
    {backend : Backend}
    (h : ((Backend.dispatch onLive onDryRun).run.run (.live live known)).Leads said (result, backend))
    (haccounts : ∀ after, ((onLive live).run.run known).Leads said (result, after) →
      ∃ calls, Accounts live task known said result after calls) :
    ∃ after calls, backend = .live live after ∧ Accounts live task known said result after calls := by
  obtain ⟨after, hbackend, hlive⟩ := Backend.leads_dispatch_live h
  obtain ⟨calls, hcalls⟩ := haccounts after hlive
  exact ⟨after, calls, hbackend, hcalls⟩

/-- Whatever a live backend is asked to do, its calls account for it. -/
theorem exists_accounts (task : Task) {result : Except Failure task.Result} {backend : Backend}
    (h : (task.run.run.run (.live live known)).Leads said (result, backend)) :
    ∃ after calls, backend = .live live after ∧ Accounts live task known said result after calls := by
  cases task with
  | login => exact accounts_of_dispatch h fun _ => accounts_login
  | repositoryExists _ _ => exact accounts_of_dispatch h fun _ => accounts_repositoryExists
  | fork _ _ => exact accounts_of_dispatch h fun _ => accounts_fork
  | push _ _ _ _ => exact accounts_of_dispatch h fun _ => accounts_push
  | createPullRequest _ _ _ _ _ _ => exact accounts_of_dispatch h fun _ => accounts_createPullRequest
  | comment _ _ _ _ => exact accounts_of_dispatch h fun _ => accounts_comment
  | requestsLeft => exact accounts_of_dispatch h fun _ => accounts_requestsLeft
  | originUrl _ _ => exact accounts_of_dispatch h fun _ => accounts_originUrl
  | prepare _ _ _ _ _ => exact accounts_prepare h

end PullRequestBot.Live
