import PullRequestBot.Proofs.Hosting.Accounts
import PullRequestBot.Proofs.Hosting.Addressing

set_option autoImplicit false

/-! # One login

Whatever a live backend is asked to do, one operation after the other, and whatever the platform answers: as
long as the account was not told, each operation that needs it asks, and fails if it is not told; the first
answer that tells it is the last one that is asked for, and all later operations use that login
(`one_login`). The accounts of a sequence of operations chain up (`Chain`).

Calls are told apart by their paths. Names that stand for themselves make paths that are asked for as they are
written, so no other request goes where the account is asked for (`asksAccount_iff`). -/

namespace PullRequestBot.Live

open Backend (Report Task)
open Dialogue (Oracle)
open Url (IsAddressable IsClear)

variable {live : Live} {login : String} {known : Login}

/-! ## Sequences of operations -/

/-- A report on an operation, with the calls that account for it. -/
structure Account (live : Live) where
  report : Report
  calls : List (Made live)

/-- The calls of an account are those of its operation, made with the login that is known in the end, or with
    any if none is. -/
def Account.Makes (account : Account live) : Prop :=
  ∃ known after, account.report.before = .live live known ∧ account.report.after = .live live after ∧
    ∀ login, MakesCalls live known (after.getD login) (account.calls.map Made.call) account.report.task

/-- The calls of an account are made with a login, and the operation gives what the login says. -/
def Account.Uses (account : Account live) (login : String) : Prop :=
  ∃ known, account.report.before = .live live known ∧
    MakesCalls live known login (account.calls.map Made.call) account.report.task ∧
    GivesLogin live login known account.report.said account.report.task account.report.result

/-- Accounts of operations, one after the other: each starts with what the one before it left known. -/
inductive Chain (live : Live) : Login → List (Account live) → Prop where
  | nil (known : Login) : Chain live known []
  | cons {known after : Login} {account : Account live} {accounts : List (Account live)}
      (hbefore : account.report.before = .live live known)
      (hafter : account.report.after = .live live after)
      (h : Accounts live account.report.task known account.report.said account.report.result after
        account.calls)
      (rest : Chain live after accounts) : Chain live known (account :: accounts)

/-- The reports on a sequence of operations chain up. -/
theorem exists_chain (live : Live) (platform : Oracle Host.Answer) (past : List Said)
    (known : Login) (tasks : List Task) :
    ∃ accounts : List (Account live),
      accounts.map Account.report = Backend.reports platform past (.live live known) tasks ∧
      Chain live known accounts := by
  -- each operation starts with what the one before it left known, and with all that was said so far
  induction tasks generalizing past known with
  | nil => exact ⟨[], rfl, .nil known⟩
  | cons task rest ih =>
      let said := (task.run.run.run (.live live known)).transcript platform past
      have hleads : (task.run.run.run (.live live known)).Leads said.1 (said.2.1, said.2.2) :=
        Dialogue.leads_transcript platform past _
      obtain ⟨after, calls, hafter, haccounts⟩ := exists_accounts task hleads
      obtain ⟨accounts, hreports, hchain⟩ := ih (past ++ said.1) after
      refine ⟨⟨⟨task, .live live known, said.1, said.2.1, said.2.2⟩, calls⟩ :: accounts, ?_,
        .cons rfl hafter haccounts hchain⟩
      rw [List.map_cons, hreports, ← hafter]
      rfl

variable {accounts : List (Account live)}

/-- Each account of a chain stands by itself. -/
theorem Chain.each (h : Chain live known accounts) : ∀ account ∈ accounts, ∃ before after,
    account.report.before = .live live before ∧ account.report.after = .live live after ∧
      Accounts live account.report.task before account.report.said account.report.result after
        account.calls := by
  induction h with
  | nil _ => exact fun _ hmem => absurd hmem List.not_mem_nil
  | cons hbefore hafter h _ ih =>
      intro account hmem
      rcases List.mem_cons.1 hmem with rfl | hmem
      · exact ⟨_, _, hbefore, hafter, h⟩
      · exact ih account hmem

theorem uses_of_accounts {account : Account live} (hbefore : account.report.before = .live live known)
    (h : Accounts live account.report.task known account.report.said account.report.result (some login)
      account.calls) : account.Uses login :=
  ⟨known, hbefore, h.makes login, h.gives login rfl⟩

/-- Once the login is known, it stays the same, all operations use it, and no call asks for it. -/
theorem Chain.of_known (h : Chain live (some login) accounts) : ∀ account ∈ accounts,
    account.report.after = .live live (some login) ∧ account.Uses login ∧
      Quiet (account.calls.map Made.call) := by
  -- the ledger keeps a login that is known, which is what the induction needs of each account
  generalize hknown : some login = known at h
  induction h with
  | nil _ => exact fun _ hmem => absurd hmem List.not_mem_nil
  | cons hbefore hafter h _ ih =>
      subst hknown
      obtain ⟨rfl, hquiet⟩ := h.ledger.of_known
      intro account hmem
      rcases List.mem_cons.1 hmem with rfl | hmem
      · exact ⟨hafter, uses_of_accounts hbefore h, hquiet⟩
      · exact ih rfl account hmem

/-- The calls of a chain never ask for the account again once it was told. -/
theorem Chain.pairwise (h : Chain live known accounts) :
    (accounts.flatMap Account.calls).Pairwise AsksNoMore := by
  induction h with
  | nil _ => exact .nil
  | @cons known after account accounts hbefore hafter h rest ih =>
      rw [List.flatMap_cons]
      refine List.pairwise_append.2 ⟨h.ledger.pairwise, ih, ?_⟩
      intro made hmade later hlater htold
      obtain ⟨login, htells⟩ := htold
      obtain rfl := h.ledger.of_told hmade htells
      obtain ⟨account', haccount', hcall⟩ := List.mem_flatMap.1 hlater
      exact not_tells_of_quiet (rest.of_known account' haccount').2.2 hcall

/-- From the account on in which the login is told, all operations use it. -/
theorem Chain.uses (h : Chain live known accounts) {earlier later : List (Account live)}
    {account : Account live} (hsplit : accounts = earlier ++ account :: later) {made : Made live}
    (hmade : made ∈ account.calls) (htells : made.Tells login) :
    ∀ account' ∈ account :: later, account'.report.after = .live live (some login) ∧
      account'.Uses login := by
  induction h generalizing earlier with
  | nil _ => simp at hsplit
  | cons hbefore hafter h rest ih =>
      rcases List.cons_eq_append_iff.1 hsplit with ⟨-, hhead⟩ | ⟨earlier', -, htail⟩
      · -- this is the account in which the login was told; the rest of the chain starts with it
        obtain ⟨rfl, rfl⟩ := List.cons.inj hhead
        obtain rfl := h.ledger.of_told hmade htells
        intro account' hmem
        rcases List.mem_cons.1 hmem with rfl | hmem
        · exact ⟨hafter, uses_of_accounts hbefore h⟩
        · obtain ⟨hafter', huses, -⟩ := rest.of_known account' hmem
          exact ⟨hafter', huses⟩
      · exact ih htail

/-! ## Requests for the account -/

/-- The account is asked for by a request: it reads, and goes to the address that the call for the account
    goes to. -/
def AsksAccount (live : Live) (exchange : Said) : Prop :=
  ∃ request timeout answer asking, exchange = ⟨.send request timeout, answer⟩ ∧ request.method = .get ∧
    live.Builds askUser asking ∧ request.url.sent = asking.url.sent

/-- Where a call reads, its path is asked for as it is written, and is not that of the account. -/
def StaysAway (call : Call) : Prop :=
  call.method = .get → call.path.toList.head? = some '/' ∧ IsAddressable call.path.toList ∧
    call.path ≠ askUser.path

/-- What an operation looks at is named by texts that stand for themselves. -/
def HasPlainNames : Task → Prop
  | .repositoryExists owner name | .fork owner name | .createPullRequest owner name _ _ _ _
  | .comment owner name _ _ => IsClear owner.toList ∧ IsAddressable name.toList
  | .login | .push _ _ _ _ | .requestsLeft | .originUrl _ _ | .prepare _ _ _ _ _ => True

theorem staysAway_of_post {call : Call} (h : call.method = .post) : StaysAway call := by
  intro hget
  rw [h] at hget
  exact absurd hget nofun

theorem staysAway_lookAt {owner name : String} (h : IsClear owner.toList ∧ IsAddressable name.toList) :
    StaysAway (lookAt owner name) := fun _ =>
  ⟨head_repositoryPath owner name, isAddressable_repositoryPath_iff.2 h,
    fun hpath => lookAt_ne_askUser owner name (congrArg (Call.mk .get · none) hpath)⟩

theorem staysAway_lookAtPull {owner name : String} (h : IsClear owner.toList ∧ IsAddressable name.toList)
    (number : UInt64) : StaysAway (lookAtPull owner name number) := by
  refine fun _ => ⟨?_, isAddressable_lookAtPull h.1 h.2.toIsClear number,
    fun hpath => lookAtPull_ne_askUser owner name number (congrArg (Call.mk .get · none) hpath)⟩
  rw [toList_lookAtPull, toList_repositoryPath]
  rfl

theorem mem_loginCalls {call : Call} (h : call ∈ loginCalls known) : call = askUser := by
  cases known with
  | none => exact List.mem_singleton.1 h
  | some _ => exact absurd h List.not_mem_nil

/-- Where all names stand for themselves, a call for the account is the only one that may go to its
    address. -/
theorem askUser_or_staysAway {task : Task} {calls : List Call} (h : MakesCalls live known login calls task)
    (hplain : HasPlainNames task) (hlogin : IsClear login.toList) :
    ∀ call ∈ calls, call = askUser ∨ StaysAway call := by
  intro call hcall
  cases task with
  | login | originUrl _ _ | prepare _ _ _ _ _ =>
      obtain rfl := h
      exact Or.inl (mem_loginCalls hcall)
  | fork owner name =>
      obtain ⟨course, rfl, hbegins⟩ := h
      rcases List.mem_append.1 (hbegins.subset hcall) with hcall | hcall
      · exact Or.inl (mem_loginCalls hcall)
      · rcases course.cases_of_mem hcall with rfl | rfl | hpost
        · exact Or.inr (staysAway_lookAt hplain)
        · exact Or.inr (staysAway_lookAt ⟨hlogin, hplain.2⟩)
        · exact Or.inr (staysAway_of_post hpost)
  | createPullRequest owner name base head title body =>
      rcases List.mem_cons.1 (h.subset hcall) with rfl | hcall
      · exact Or.inr (staysAway_lookAt hplain)
      rcases List.mem_append.1 hcall with hcall | hcall
      · exact Or.inl (mem_loginCalls hcall)
      · obtain rfl := List.mem_singleton.1 hcall
        exact Or.inr (staysAway_of_post rfl)
  | repositoryExists owner name =>
      obtain rfl := h
      obtain rfl := List.mem_singleton.1 hcall
      exact Or.inr (staysAway_lookAt hplain)
  | push _ _ _ _ =>
      obtain rfl := h
      exact absurd hcall List.not_mem_nil
  | comment owner name number body =>
      rcases List.mem_cons.1 (h.subset hcall) with rfl | hcall
      · exact Or.inr (staysAway_lookAt hplain)
      rcases List.mem_cons.1 hcall with rfl | hcall
      · exact Or.inr (staysAway_lookAtPull hplain number)
      · obtain rfl := List.mem_singleton.1 hcall
        exact Or.inr (staysAway_of_post rfl)
  | requestsLeft =>
      obtain rfl := h
      obtain rfl := List.mem_singleton.1 hcall
      exact Or.inr fun _ => ⟨rfl, by decide, by decide⟩

/-- A call that stays away from the address of the account does not ask for it by its request. -/
theorem asksAccount_iff {scheme : String} {rest : List Char} (hopen : live.IsOpen scheme rest)
    {made : Made live} (h : made.call = askUser ∨ StaysAway made.call) {exchange : Said}
    (hmem : exchange ∈ made.said) : AsksAccount live exchange ↔ made.call = askUser := by
  obtain ⟨call, said, reply, hsent⟩ := made
  cases hsent with
  | unbuilt _ => exact absurd hmem List.not_mem_nil
  | @answered request answer hbuilt =>
      obtain rfl := List.mem_singleton.1 hmem
      have hmethod := (request_eq_ok hbuilt).1
      constructor
      · rintro ⟨_, _, _, asking, heq, hget, hasking, hsame⟩
        cases heq
        refine h.resolve_right fun haway => ?_
        obtain ⟨hhead, haddressable, hne⟩ := haway (hmethod.symm.trans hget)
        exact hne (hopen.path_of_sent_eq hhead rfl haddressable (by decide) hbuilt hasking hsame)
      · intro hcall
        subst hcall
        exact ⟨request, _, _, request, rfl, hmethod, hbuilt, rfl⟩

/-- **One login.** Whatever a live backend that does not know the login is asked to do, one operation after
    the other, and whatever the platform answers, there are calls that account for all requests, with these
    properties. They are the calls of the operations. An operation that asks for the account and is not told
    fails, and leaves the login unknown. An operation that needs the login where it is unknown asks for the
    account. In the whole sequence, no call asks for the account after one that told it. From the operation
    on in which it was told, the login is remembered, and every operation uses it: forks are looked for and
    renamed under it, pull requests are opened from its branches, and its repositories are cloned.

    Where the interface is at an address that paths can be put behind, and the repositories and the login are
    named by texts that stand for themselves, the requests that ask for the account are those of the calls
    for it, and no others. -/
theorem one_login (live : Live) (platform : Oracle Host.Answer) (past : List Said) (tasks : List Task) :
    ∃ accounts : List (Account live),
      accounts.map Account.report = Backend.reports platform past (.live live none) tasks ∧
      (∀ account ∈ accounts, sent account.report.said = requestsOf account.calls) ∧
      (∀ account ∈ accounts, account.Makes) ∧
      (∀ account ∈ accounts, ∀ made ∈ account.calls, made.call = askUser →
        (∀ login, ¬ made.Tells login) →
          (∃ failure, judge loginIn made.reply = .error failure ∧
            account.report.result = .error failure) ∧
          account.report.before = .live live none ∧ account.report.after = .live live none) ∧
      (∀ account ∈ accounts, account.report.before = .live live none →
        AsksLogin account.calls account.report.task account.report.result) ∧
      (accounts.flatMap Account.calls).Pairwise AsksNoMore ∧
      (∀ earlier account later, accounts = earlier ++ account :: later → ∀ made ∈ account.calls,
        ∀ login, made.Tells login → ∀ account' ∈ account :: later,
          account'.report.after = .live live (some login) ∧ account'.Uses login) ∧
      ∀ scheme rest, live.IsOpen scheme rest → (∀ task ∈ tasks, HasPlainNames task) →
        (∀ account ∈ accounts, ∀ login, account.report.after = .live live (some login) →
          IsClear login.toList) →
        ∀ account ∈ accounts, ∀ made ∈ account.calls, ∀ exchange ∈ made.said,
          AsksAccount live exchange ↔ made.call = askUser := by
  obtain ⟨accounts, hreports, hchain⟩ := exists_chain live platform past none tasks
  refine ⟨accounts, hreports, ?_, ?_, ?_, ?_, hchain.pairwise, ?_, ?_⟩
  · intro account haccount
    obtain ⟨_, _, -, -, h⟩ := hchain.each account haccount
    exact h.requests
  · intro account haccount
    obtain ⟨before, after, hbefore, hafter, h⟩ := hchain.each account haccount
    exact ⟨before, after, hbefore, hafter, h.makes⟩
  · intro account haccount made hmade hcall hnot
    obtain ⟨_, _, hbefore, hafter, h⟩ := hchain.each account haccount
    obtain ⟨hfails, rfl, rfl⟩ := h.ledger.of_not_told hmade hcall hnot
    exact ⟨hfails, hbefore, hafter⟩
  · intro account haccount hnone
    obtain ⟨before, _, hbefore, -, h⟩ := hchain.each account haccount
    rw [hnone] at hbefore
    obtain ⟨-, rfl⟩ := Backend.live.inj hbefore
    exact h.asks rfl
  · intro earlier account later hsplit made hmade login htells
    exact hchain.uses hsplit hmade htells
  · intro scheme rest hopen hplain hclear account haccount made hmade exchange hmem
    obtain ⟨_, after, -, hafter, h⟩ := hchain.each account haccount
    have htask : account.report.task ∈ tasks := by
      rw [← Backend.map_task_reports platform past (.live live none) tasks, ← hreports, List.map_map]
      exact List.mem_map_of_mem haccount
    have hlogin : IsClear (after.getD "").toList := by
      cases after with
      | none => exact (by decide : IsClear [])
      | some login => exact hclear account haccount login hafter
    have haway := askUser_or_staysAway (h.makes "") (hplain _ htask) hlogin
    exact asksAccount_iff hopen (haway _ (List.mem_map_of_mem hmade)) hmem

/-- A platform that tells this login whatever it is asked. -/
def loginWorld : Host.World :=
  documentWorld "\x7b\"login\":\"me\"\x7d"

/-- The login that a backend remembers. -/
def remembered? : Backend → Login
  | .live _ known => known
  | .dryRun _ _ => none

/-- The case of an account that is told, of a repository with a plain name and of an address to clone. -/
theorem one_login_of_me :
    let live : Live := { token := "t", client := {} }
    let tasks : List Task := [.login, .repositoryExists "o" "n", .originUrl "o" "n"]
    let reports := Backend.reports (fun _ => loginWorld) [] (.live live none) tasks
    live.IsOpen "https" "//api.github.com".toList ∧ (∀ task ∈ tasks, HasPlainNames task) ∧
      (∀ report ∈ reports, ∀ login, report.after = .live live (some login) → IsClear login.toList) ∧
      ∃ accounts : List (Account live), accounts.map Account.report = reports ∧
        ∀ account ∈ accounts, ∀ made ∈ account.calls, ∀ exchange ∈ made.said,
          AsksAccount live exchange ↔ made.call = askUser := by
  intro live tasks reports
  have hopen : live.IsOpen "https" "//api.github.com".toList := isOpen_default rfl
  have hplain : ∀ task ∈ tasks, HasPlainNames task :=
    List.forall_mem_cons.2 ⟨trivial, List.forall_mem_cons.2 ⟨⟨by decide, by decide⟩,
      List.forall_mem_singleton.2 trivial⟩⟩
  have hremembered : ∀ report ∈ reports, remembered? report.after = some "me" := by decide +kernel
  have hclear : ∀ report ∈ reports, ∀ login, report.after = .live live (some login) →
      IsClear login.toList := by
    intro report hmem login hafter
    have hlogin := hremembered report hmem
    rw [hafter] at hlogin
    obtain rfl := Option.some.inj hlogin
    decide
  obtain ⟨accounts, hreports, -, -, -, -, -, -, hasks⟩ := one_login live (fun _ => loginWorld) [] tasks
  refine ⟨hopen, hplain, hclear, accounts, hreports, hasks _ _ hopen hplain fun account haccount => ?_⟩
  have hmem : account.report ∈ accounts.map Account.report := List.mem_map_of_mem haccount
  rw [hreports] at hmem
  exact hclear account.report hmem

/-- A repository can be named so that looking for it asks for the account once more, after the account told the
    login. -/
theorem account_asked_again :
    let live : Live := { token := "t", client := {} }
    let platform := fun _ : List Said => loginWorld
    let first := (Backend.login.run.run (.live live none)).transcript platform []
    let second := ((Backend.repositoryExists ".." "user").run.run first.2.2).transcript platform first.1
    first.2.1 = .ok "me" ∧ first.1.filterMap sentAs? = [(.get, "https://api.github.com/user")] ∧
      second.2.1 = .ok true ∧ second.1.filterMap sentAs? = [(.get, "https://api.github.com/user")] := by
  intro live platform first second
  have hfirst : first.2.1.toOption = some "me" ∧
      first.1.filterMap sentAs? = [(.get, "https://api.github.com/user")] := by decide +kernel
  have hsecond : second.2.1.toOption = some true ∧
      second.1.filterMap sentAs? = [(.get, "https://api.github.com/user")] := by decide +kernel
  exact ⟨Result.toOption_eq_some.1 hfirst.1, hfirst.2, Result.toOption_eq_some.1 hsecond.1, hsecond.2⟩

end PullRequestBot.Live
