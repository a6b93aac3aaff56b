import PullRequestBot.Proofs.Hosting.Agreement

set_option autoImplicit false

/-! # Forking again and again

On a platform that keeps a store, one fork brings the fork into sync with its parent, and every later fork
of the same repository only looks (`fork_converges`). A fork of a repository that is missing only looks as
well. What holds of the store along each of these ways is an invariant of the script of a fork, and the
requests of a fork that stays at the stages of such an invariant can be read off the stages
(`fork_keeps`). -/

namespace PullRequestBot.Live

open Backend (allows_simulatePublic condaForge holdsKnown_knownStore knownStore nameOfLength
  not_fits_nameOfLength polars publicLive simulatePublic)
open Dialogue (Evolves Exchange Oracle)

variable {live : Live} {site : Site} {account owner name wanted : PlainText} {start before after : Store}
  {attempts : Nat}

/-! ## Requests that only read -/

/-- All requests that were sent only read. -/
def OnlyReads (said : List Said) : Prop :=
  ∀ request timeout answer, ⟨.send request timeout, answer⟩ ∈ said → request.method = .get

/-- A call that only reads is sent by a request that only reads. -/
theorem Sent.onlyReads {call : Call} {said : List Said} {reply : Reply} (h : live.Sent call said reply)
    (hget : call.method = .get) : OnlyReads said := by
  intro request timeout answer hmem
  cases h with
  | unbuilt _ => exact absurd hmem List.not_mem_nil
  | answered _ hbuilt =>
      cases List.mem_singleton.1 hmem
      rw [(request_eq_ok hbuilt).1, hget]

/-- A walk whose stages only look sends nothing but requests that only read. -/
theorem onlyReads_of_walk {Stage : Type} {script : Script Stage} {place : Option Stage}
    {turns : List (Turn Stage)} {ending : Except Failure (Option Stage)} {said : List Said}
    (h : live.Walk script place turns ending) (hsaid : sent said = saidIn turns)
    (hreads : ∀ turn ∈ turns, (script.call turn.stage).method = .get) : OnlyReads said := by
  intro request timeout answer hmem
  have hsent : ⟨.send request timeout, answer⟩ ∈ sent said := List.mem_filter.2 ⟨hmem, rfl⟩
  rw [hsaid] at hsent
  obtain ⟨turn, hturn, hin⟩ := List.mem_flatMap.1 hsent
  exact (h.sent turn hturn).onlyReads (hreads turn hturn) request timeout answer hin

/-! ## Nothing to fork -/

/-- What holds of the store where a fork has come to that finds neither its parent nor itself. -/
def Missing (site : Site) (account owner name : PlainText) (start : Store) :
    Except Failure (Option ForkStage) → Store → Prop
  | .ok (some .askLogin), store => store = start
  | .ok (some (.lookForFork login)), store | .ok (some (.checkParent login)), store =>
    login = account.val ∧ store = start
  | .error failure, store => store = start ∧
    (failure = .platform (.repositoryNotFound owner.val name.val) ∨
      IsTooLongAmong site (lookPaths account owner name) failure)
  | _, _ => False

theorem missing_step (hlive : live.IsAt site) (hparent : start owner name = none)
    (hfork : start account name = none) (stage : ForkStage) (said : List Said) (reply : Reply)
    (before after : Store) (h : Missing site account owner name start (.ok (some stage)) before)
    (hsent : live.Sent ((forkScript attempts owner.val name.val).call stage) said reply)
    (hevolves : Evolves (Store.Allows site account) before said after) :
    Missing site account owner name start
      (Turn.outcome (forkScript attempts owner.val name.val) ⟨stage, said, reply⟩) after := by
  have hfailed {texts : List PlainText} (hmem : texts ∈ lookPaths account owner name)
      (hfits : ¬ Fits site (PlainText.segments texts)) :
      Missing site account owner name start
        (.error (.platform (.request (tooLong site (PlainText.segments texts))))) start :=
    ⟨rfl, Or.inr ⟨texts, hmem, hfits, rfl⟩⟩
  cases stage with
  | askLogin =>
      obtain rfl : before = start := h
      have hcall : live.Sent (callAt .get [.user] none) said reply := hsent
      refine hcall.keeps hlive (List.cons_ne_nil _ _) (wish_user none) hevolves
        (hfailed (by simp [lookPaths])) fun received _ hgrants => ?_
      obtain ⟨rfl, hlogin⟩ := loginIn_of_grants hgrants
      simp only [forkScript, hlogin]
      exact ⟨rfl, rfl⟩
  | lookForFork login =>
      obtain ⟨rfl, rfl⟩ := h
      refine Sent.keeps_look hlive hsent hevolves (hfailed (by simp [lookPaths]))
        fun received _ hgrants => ?_
      simp only [forkScript, (presence_of_grants hgrants).2, hfork]
      exact ⟨rfl, rfl⟩
  | checkParent login =>
      obtain ⟨rfl, rfl⟩ := h
      refine Sent.keeps_look hlive hsent hevolves (hfailed (by simp [lookPaths]))
        fun received _ hgrants => ?_
      simp only [forkScript, description_of_missing hgrants hparent]
      exact ⟨rfl, Or.inl rfl⟩
  | _ => exact absurd h id

theorem missing_reads {stage : ForkStage} {store : Store}
    (h : Missing site account owner name start (.ok (some stage)) store) :
    ((forkScript attempts owner.val name.val).call stage).method = .get := by
  cases stage with
  | askLogin | lookForFork _ | checkParent _ => rfl
  | _ => exact absurd h id

/-! ## Nothing to do -/

/-- What holds of the store where a fork has come to that is in sync with its parent. -/
def InSync (account wanted : PlainText) (start : Store) :
    Except Failure (Option ForkStage) → Store → Prop
  | .ok (some (.lookForFork login)), store | .ok (some (.readParent login)), store =>
    login = account.val ∧ store = start
  | .ok (some (.readFork login branch)), store =>
    login = account.val ∧ branch = wanted.val ∧ store = start
  | .ok none, store => store = start
  | _, _ => False

theorem inSync_step (hlive : live.IsAt site) (hlooks : LooksFit site account owner name)
    (hparent : start owner name = some wanted) (hfork : start account name = some wanted)
    (stage : ForkStage) (said : List Said) (reply : Reply) (before after : Store)
    (h : InSync account wanted start (.ok (some stage)) before)
    (hsent : live.Sent ((forkScript attempts owner.val name.val).call stage) said reply)
    (hevolves : Evolves (Store.Allows site account) before said after) :
    InSync account wanted start
      (Turn.outcome (forkScript attempts owner.val name.val) ⟨stage, said, reply⟩) after := by
  cases stage with
  | lookForFork login =>
      obtain ⟨rfl, rfl⟩ := h
      refine Sent.keeps_look hlive hsent hevolves (absurd hlooks.fork) fun received _ hgrants => ?_
      simp only [forkScript, (presence_of_grants hgrants).2, hfork]
      exact ⟨rfl, rfl⟩
  | readParent login =>
      obtain ⟨rfl, rfl⟩ := h
      refine Sent.keeps_look hlive hsent hevolves (absurd hlooks.parent) fun received _ hgrants => ?_
      simp only [forkScript, branchIn_of_there hgrants hparent]
      exact ⟨rfl, rfl, rfl⟩
  | readFork login branch =>
      obtain ⟨rfl, rfl, rfl⟩ := h
      refine Sent.keeps_look hlive hsent hevolves (absurd hlooks.fork) fun received _ hgrants => ?_
      simp only [forkScript, branchIn_of_there hgrants hfork, Except.map, if_true]
      rfl
  | _ => exact absurd h id

theorem inSync_reads {stage : ForkStage} {store : Store}
    (h : InSync account wanted start (.ok (some stage)) store) :
    ((forkScript attempts owner.val name.val).call stage).method = .get := by
  cases stage with
  | lookForFork _ | readParent _ | readFork _ _ => rfl
  | _ => exact absurd h id

/-! ## A fork on a platform that keeps a store -/

/-- What is said in a fork, its result, and the login that is remembered then. -/
def forkSaid (live : Live) (platform : Oracle Host.Answer) (owner name : PlainText)
    (past : List (Exchange Host.Answer)) (known : Login) :
    List (Exchange Host.Answer) × Except Failure Unit × Login :=
  ((live.fork owner.val name.val).run.run known).transcript platform past

variable {platform : Oracle Host.Answer} {storeAfter : List (Exchange Host.Answer) → Store}
  {known : Login} {past : List (Exchange Host.Answer)}

/-- The login that a fork leaves remembered, where it was known before. -/
theorem forkSaid_known (login : String) :
    (live.forkSaid platform owner name past (some login)).2.2 = some login := by
  have hrun : (live.fork owner.val name.val).run.run (some login) =
      (plainly (live.forkAs owner.val name.val login)).run.run (some login) :=
    live.run_login_bind_some _ login
  have hleads := Dialogue.leads_transcript platform past
    ((plainly (live.forkAs owner.val name.val login)).run.run (some login))
  rw [forkSaid, hrun]
  exact (leads_plainly hleads).2

/-- A fork is in sync with its parent, both can be looked at, and the login is known. -/
structure Settled (site : Site) (account owner name wanted : PlainText) (store : Store) (known : Login) :
    Prop where
  login : known = some account.val
  looks : LooksFit site account owner name
  parent : store owner name = some wanted
  fork : store account name = some wanted

section

variable (hlive : live.IsAt site)
  (hkept : ∀ past question, Store.Allows site account (storeAfter past)
    ⟨question, platform past question⟩ (storeAfter (past ++ [⟨question, platform past question⟩])))

include hkept

/-- What every call of a fork keeps of the store, the fork keeps. Where only stages that look keep it, the
    fork sends nothing but requests that only read. -/
theorem fork_keeps (kept : Except Failure (Option ForkStage) → Store → Prop)
    (hstep : ∀ stage said reply before after, kept (.ok (some stage)) before →
      live.Sent ((forkScript live.timing.attempts owner.val name.val).call stage) said reply →
      Evolves (Store.Allows site account) before said after →
      kept (Turn.outcome (forkScript live.timing.attempts owner.val name.val) ⟨stage, said, reply⟩) after)
    (hstart : kept (.ok (some (forkStart known))) (storeAfter past)) :
    let said := live.forkSaid platform owner name past known
    kept (said.2.1.map fun _ => none) (storeAfter (past ++ said.1)) ∧
      ((∀ stage store, kept (.ok (some stage)) store →
        ((forkScript live.timing.attempts owner.val name.val).call stage).method = .get) →
        OnlyReads said.1) := by
  intro said
  have hleads := Dialogue.leads_transcript platform past ((live.fork owner.val name.val).run.run known)
  obtain ⟨turns, hwalk, hsent⟩ :=
    live.follows_fork owner.val name.val known said.1 said.2.1 (leads_login_bind hleads)
  have hevolves : Evolves (Store.Allows site account) (storeAfter past) (sent said.1)
      (storeAfter (past ++ said.1)) := evolves_sent (Dialogue.evolves_transcript hkept _ past)
  rw [hsent] at hevolves
  obtain ⟨hended, hturns⟩ := hwalk.keeps hstep hstart hevolves
  refine ⟨hended, fun hreads => onlyReads_of_walk hwalk hsent fun turn hturn => ?_⟩
  obtain ⟨store, hstore⟩ := hturns turn hturn
  exact hreads turn.stage store hstore

include hlive

/-- A fork that finds neither its parent nor itself only looks, and fails. -/
theorem fork_missing (hknown : Remembers account known) (hparent : storeAfter past owner name = none)
    (hfork : storeAfter past account name = none) :
    let said := live.forkSaid platform owner name past known
    ∃ failure, said.2.1 = .error failure ∧ OnlyReads said.1 ∧
      storeAfter (past ++ said.1) = storeAfter past ∧
      (failure = .platform (.repositoryNotFound owner.val name.val) ∨
        IsTooLongAmong site (lookPaths account owner name) failure) := by
  have hstart : Missing site account owner name (storeAfter past) (.ok (some (forkStart known)))
      (storeAfter past) := by
    cases known with
    | none => exact rfl
    | some login => exact ⟨hknown login rfl, rfl⟩
  -- no end of a fork but a failure is among what is kept here
  obtain ⟨hended, hreads⟩ := fork_keeps hkept _ (missing_step hlive hparent hfork) hstart
  generalize live.forkSaid platform owner name past known = said at hended hreads ⊢
  obtain ⟨spoken, result, known⟩ := said
  cases result with
  | ok _ => exact absurd hended id
  | error failure =>
      exact ⟨failure, rfl, hreads fun _ _ => missing_reads, hended.1, hended.2⟩

/-- A fork that is in sync with its parent is only looked at. -/
theorem fork_settled (h : Settled site account owner name wanted (storeAfter past) known) :
    let said := live.forkSaid platform owner name past known
    said.2 = (.ok (), known) ∧ OnlyReads said.1 ∧ storeAfter (past ++ said.1) = storeAfter past := by
  obtain ⟨rfl, hlooks, hparent, hfork⟩ := h
  have hstart : InSync account wanted (storeAfter past)
      (.ok (some (forkStart (some account.val)))) (storeAfter past) := ⟨rfl, rfl⟩
  obtain ⟨hended, hreads⟩ := fork_keeps hkept _ (inSync_step hlive hlooks hparent hfork) hstart
  have hknown : (live.forkSaid platform owner name past (some account.val)).2.2 = some account.val :=
    forkSaid_known account.val
  generalize live.forkSaid platform owner name past (some account.val) = said
    at hended hreads hknown ⊢
  obtain ⟨spoken, result, known⟩ := said
  cases result with
  | ok _ => exact ⟨congrArg (Prod.mk _) hknown, hreads fun _ _ => inSync_reads, hended⟩
  | error failure => exact absurd hended id

/-- A fork that succeeds knows the login of the account. -/
theorem forkSaid_login (hknown : Remembers account known) (hwanted : storeAfter past owner name = some wanted)
    (hok : (live.forkSaid platform owner name past known).2.1 = .ok ()) :
    (live.forkSaid platform owner name past known).2.2 = some account.val := by
  have hremembers : Remembers account (live.forkSaid platform owner name past known).2.2 :=
    (((acts_fork hlive hwanted).keeps known hknown).transcript hkept).2.2
  have hleads : ((live.fork owner.val name.val).run.run known).Leads
      (live.forkSaid platform owner name past known).1
      (live.forkSaid platform owner name past known).2 :=
    Dialogue.leads_transcript platform past _
  rw [← Prod.eta (live.forkSaid platform owner name past known).2, hok] at hleads
  obtain ⟨login, hlogin⟩ := knows_of_leads hleads
  rw [hlogin, hremembers login hlogin]

/-- A fork of a repository that is there settles, unless the address of a request is too long. Nothing but
    the fork changes in either case. -/
theorem fork_settles (hknown : Remembers account known) (hwanted : storeAfter past owner name = some wanted) :
    let said := live.forkSaid platform owner name past known
    (said.2.1 = .ok () ∧ storeAfter (past ++ said.1) = (storeAfter past).put account name wanted ∧
        Settled site account owner name wanted (storeAfter (past ++ said.1)) said.2.2) ∨
      ∃ failure, said.2.1 = .error failure ∧
        IsTooLongAmong site (forkPaths account owner name (storeAfter (past ++ said.1) account name))
          failure ∧
        SameOthers account name (storeAfter past) (storeAfter (past ++ said.1)) := by
  have hstart : OnCourse site account owner name wanted (storeAfter past)
      (.ok (some (forkStart known))) (storeAfter past) := by
    cases known with
    | none => exact rfl
    | some login => exact ⟨hknown login rfl, rfl⟩
  obtain ⟨hended, -⟩ := fork_keeps hkept _ (onCourse_step hlive hwanted) hstart
  have hlogin := forkSaid_login hlive hkept hknown hwanted
  generalize live.forkSaid platform owner name past known = said at hended hlogin ⊢
  obtain ⟨spoken, result, known⟩ := said
  cases result with
  | ok _ =>
      obtain ⟨hstore, hlooks⟩ : storeAfter (past ++ spoken) = _ ∧ _ := hended
      refine Or.inl ⟨rfl, hstore, hlogin rfl, hlooks, ?_, ?_⟩
      · rw [hstore, Store.put_of_there hwanted]
      · rw [hstore, Store.put_self]
  | error failure => exact Or.inr ⟨failure, rfl, hended⟩

/-- What cannot be looked at cannot be forked. -/
theorem fork_fails_of_not_fits (hknown : Remembers account known)
    (hthere : storeAfter past owner name ≠ none)
    (h : ¬ Fits site (PlainText.segments [.repos, account, name])) :
    let said := live.forkSaid platform owner name past known
    ∃ failure, said.2.1 = .error failure ∧
      IsTooLongAmong site (forkPathsIn account owner name (storeAfter (past ++ said.1))) failure := by
  obtain ⟨wanted, hwanted⟩ := Option.ne_none_iff_exists'.1 hthere
  rcases fork_settles hlive hkept hknown hwanted with ⟨-, -, hsettled⟩ | ⟨failure, hfailed, hlong, -⟩
  · exact absurd hsettled.looks.fork h
  · exact ⟨failure, hfailed, hlong⟩

/-! ## One fork after the other -/

/-- What was said, and the login that is remembered, before one fork after the other. -/
def beforeFork (live : Live) (platform : Oracle Host.Answer) (owner name : PlainText)
    (past : List (Exchange Host.Answer)) (known : Login) : Nat → List (Exchange Host.Answer) × Login
  | 0 => (past, known)
  | count + 1 =>
    let before := live.beforeFork platform owner name past known count
    let said := live.forkSaid platform owner name before.1 before.2
    (before.1 ++ said.1, said.2.2)

/-- Once a fork is settled, it stays so while it is forked again, and the store does not change. -/
theorem settled_beforeFork (first count : Nat) :
    let before := live.beforeFork platform owner name past known
    Settled site account owner name wanted (storeAfter (before first).1) (before first).2 →
      storeAfter (before (first + count)).1 = storeAfter (before first).1 ∧
        Settled site account owner name wanted (storeAfter (before (first + count)).1)
          (before (first + count)).2 := by
  intro before hfirst
  -- on the number of forks after the one that settled it
  induction count with
  | zero => exact ⟨rfl, hfirst⟩
  | succ count ih =>
      obtain ⟨hstore, hsettled⟩ := ih
      obtain ⟨hsaid, -, hagain⟩ := fork_settled hlive hkept hsettled
      have hnext : storeAfter (before (first + (count + 1))).1 = storeAfter (before (first + count)).1 :=
        hagain
      have hknown : (before (first + (count + 1))).2 = (before (first + count)).2 :=
        (congrArg Prod.snd hsaid :)
      rw [hnext, hknown]
      exact ⟨hstore, hsettled⟩

end

/-- **Forking converges.** Let the platform keep a store, and fork one repository again and again. If it is
    there, the first fork succeeds and puts the fork into the store, with the default branch of its parent
    and without a change to any other repository; every later fork succeeds, sends nothing but requests
    that only read, and changes nothing. The one exception is a first fork that fails since it needs a
    request whose address is too long; then too no other repository changes. If neither the repository nor
    its fork is there, the first fork sends nothing but requests that only read, changes nothing and fails
    since the repository is missing, or since the address of such a request is too long. -/
theorem fork_converges (hlive : live.IsAt site)
    (hkept : ∀ past question, Store.Allows site account (storeAfter past)
      ⟨question, platform past question⟩ (storeAfter (past ++ [⟨question, platform past question⟩])))
    (hknown : Remembers account known) (owner name : PlainText) (past : List (Exchange Host.Answer)) :
    let before := live.beforeFork platform owner name past known
    let said := fun count => live.forkSaid platform owner name (before count).1 (before count).2
    let store := fun count => storeAfter (before count).1
    (∀ wanted, store 0 owner name = some wanted →
      ((said 0).2.1 = .ok () ∧ ∀ count,
          store (count + 1) = (store 0).put account name wanted ∧
          (said (count + 1)).2.1 = .ok () ∧ OnlyReads (said (count + 1)).1) ∨
        ∃ failure, (said 0).2.1 = .error failure ∧
          IsTooLongAmong site (forkPaths account owner name (store 1 account name)) failure ∧
          SameOthers account name (store 0) (store 1)) ∧
    (store 0 owner name = none → store 0 account name = none →
      ∃ failure, (said 0).2.1 = .error failure ∧ OnlyReads (said 0).1 ∧ store 1 = store 0 ∧
        (failure = .platform (.repositoryNotFound owner.val name.val) ∨
          IsTooLongAmong site (lookPaths account owner name) failure)) := by
  intro before said store
  refine ⟨fun wanted hwanted => ?_, fun hparent hfork => fork_missing hlive hkept hknown hparent hfork⟩
  rcases fork_settles hlive hkept hknown hwanted with ⟨hok, hstore, hsettled⟩ | hfailed
  · refine Or.inl ⟨hok, fun count => ?_⟩
    obtain ⟨hsame, hlater⟩ := settled_beforeFork hlive hkept 1 count hsettled
    obtain ⟨hresult, hreads, -⟩ := fork_settled hlive hkept hlater
    rw [Nat.add_comm 1 count] at hsame hresult hreads
    exact ⟨hsame.trans hstore, congrArg Prod.fst hresult, hreads⟩
  · exact Or.inr hfailed

/-- The first fork of a known repository succeeds. -/
theorem polars_forked : (publicLive.forkSaid (Dialogue.simulated simulatePublic (knownStore [])) condaForge
    polars [] none).2.1.isOk = true := by
  decide +kernel

/-- A known repository is forked, again and again. -/
theorem polars_fork_converges :
    let start := knownStore []
    let platform := Dialogue.simulated simulatePublic start
    let storeAfter := Dialogue.simulatedAfter simulatePublic start
    let before := publicLive.beforeFork platform condaForge polars [] none
    let said := fun count => publicLive.forkSaid platform condaForge polars (before count).1 (before count).2
    let store := fun count => storeAfter (before count).1
    publicLive.IsAt publicSite ∧
      (∀ past question, Store.Allows publicSite DryRun.account (storeAfter past)
        ⟨question, platform past question⟩ (storeAfter (past ++ [⟨question, platform past question⟩]))) ∧
      Remembers DryRun.account none ∧
      ∃ main, store 0 condaForge polars = some main ∧ (said 0).2.1 = .ok () ∧
        ∀ count, store (count + 1) = (store 0).put DryRun.account polars main ∧
          (said (count + 1)).2.1 = .ok () ∧ OnlyReads (said (count + 1)).1 := by
  have hlive : publicLive.IsAt publicSite := isAt_publicSite rfl (by decide +kernel)
  have hkept := allows_simulatePublic []
  obtain ⟨main, hmain⟩ : ∃ main, knownStore [] condaForge polars = some main :=
    Option.ne_none_iff_exists'.1 ((holdsKnown_knownStore [] condaForge polars).2
      (Or.inl (by decide +kernel)))
  refine ⟨hlive, hkept, remembers_none, main, hmain, ?_⟩
  rcases (fork_converges hlive hkept remembers_none condaForge polars []).1 main hmain with
    hsucceeds | ⟨failure, hfailed, -⟩
  · exact hsucceeds
  · have hforked := polars_forked
    dsimp only [beforeFork] at hfailed
    rw [hfailed] at hforked
    exact absurd hforked nofun

/-- A registered repository is there from the start. -/
theorem registered_at_start (owner name : PlainText) :
    Dialogue.simulatedAfter simulatePublic (knownStore [(owner, name)]) [] owner name ≠ none :=
  (holdsKnown_knownStore [(owner, name)] owner name).2 (Or.inr List.mem_cons_self)

/-- A fork with a name of such a length fails although there is something to fork. -/
theorem long_name_fails {length : Nat} (h : Url.maxLength < length) :
    let start := knownStore [(condaForge, nameOfLength length)]
    let platform := Dialogue.simulated simulatePublic start
    let storeAfter := Dialogue.simulatedAfter simulatePublic start
    let said := publicLive.forkSaid platform condaForge (nameOfLength length) [] none
    (∃ failure, said.2.1 = .error failure ∧ IsTooLongAmong publicSite
      (forkPathsIn DryRun.account condaForge (nameOfLength length) (storeAfter said.1)) failure) ∧
      said.2.1 ≠ .ok () := by
  have hlive : publicLive.IsAt publicSite := isAt_publicSite rfl (by decide +kernel)
  have hthere := registered_at_start condaForge (nameOfLength length)
  have hfits := not_fits_nameOfLength publicSite DryRun.account h
  obtain ⟨failure, hfailed, hlong⟩ :=
    fork_fails_of_not_fits hlive (allows_simulatePublic _) remembers_none hthere hfits
  refine ⟨⟨failure, hfailed, hlong⟩, fun hok => ?_⟩
  rw [hfailed] at hok
  exact absurd hok nofun

/-- Where the address of the fork is too long, there is something to fork, and yet a fork fails. -/
theorem long_name_not_forked :
    let start := knownStore [(condaForge, nameOfLength 65535)]
    let platform := Dialogue.simulated simulatePublic start
    let storeAfter := Dialogue.simulatedAfter simulatePublic start
    let said := publicLive.forkSaid platform condaForge (nameOfLength 65535) [] none
    publicLive.IsAt publicSite ∧ 1 ≤ publicLive.timing.attempts ∧
      (∀ past question, Store.Allows publicSite DryRun.account (storeAfter past)
        ⟨question, platform past question⟩ (storeAfter (past ++ [⟨question, platform past question⟩]))) ∧
      Remembers DryRun.account none ∧ storeAfter [] condaForge (nameOfLength 65535) ≠ none ∧
      (∃ failure, said.2.1 = .error failure ∧ IsTooLongAmong publicSite
        (forkPathsIn DryRun.account condaForge (nameOfLength 65535) (storeAfter said.1)) failure) ∧
      said.2.1 ≠ .ok () := by
  have hlive : publicLive.IsAt publicSite := isAt_publicSite rfl (by decide +kernel)
  have hkept := allows_simulatePublic [(condaForge, nameOfLength 65535)]
  have hthere := registered_at_start condaForge (nameOfLength 65535)
  have hlength : Url.maxLength < 65535 := Nat.lt_succ_self 65534
  exact ⟨hlive, Nat.le_refl 1, hkept, remembers_none, hthere, long_name_fails hlength⟩

end PullRequestBot.Live
