import PullRequestBot.Hosting.Backend
import PullRequestBot.Proofs.Hosting.ForkCourse
import PullRequestBot.Proofs.Hosting.Mirror
import PullRequestBot.Proofs.Hosting.Simulation

set_option autoImplicit false

/-! # The backends agree

Where the platform keeps a store, what an operation is to give, and what it is to do to the store, can be
told from the store alone (`Operation.Expects`, `Operation.effect`). The live backend keeps to that unless
the address of a request of the operation itself is too long (`Operation.paths`), and a dry run that mirrors
the store keeps to it always. So the two agree on whatever operations, one by one, up to the first one with
such a request (`backends_agree`). -/

namespace PullRequestBot.Backend

open Dialogue (Keeps Oracle)
open Live (Achieves Acts Echoes IsTooLongAmong Remembers)

variable {α : Type} {live : Live} {dryRun : DryRun} {site : Site} {account : PlainText}
  {store before : Store} {forks : DryRun.Forks}

/-! ## Operations -/

/-- An operation on a backend. -/
inductive Operation where
  | login
  | repositoryExists (owner name : PlainText)
  | fork (owner name : PlainText)
  | createPullRequest (owner name base head : PlainText) (title body : String)

/-- What an operation gives. -/
inductive Outcome where
  | login (text : String)
  | presence (present : Bool)
  | forked
  | opened (pull : PullRequest)

/-- Carries out an operation. -/
def Operation.run : Operation → Act Outcome
  | .login => Outcome.login <$> Backend.login
  | .repositoryExists owner name =>
    Outcome.presence <$> Backend.repositoryExists owner.val name.val
  | .fork owner name => (fun _ => Outcome.forked) <$> Backend.fork owner.val name.val
  | .createPullRequest owner name base head title body =>
    Outcome.opened <$> Backend.createPullRequest owner.val name.val base.val head.val title body

/-- What came of an operation: all that was said until its end, and the result. -/
structure Step where
  past : List Live.Said
  result : Except Failure Outcome

/-- Carries out operations one after the other, each of them whatever became of the ones before. -/
def runAll (host : Oracle Host.Answer) : List Live.Said → Backend → List Operation → List Step
  | _, _, [] => []
  | past, backend, operation :: rest =>
    let (said, result, after) := (operation.run.run.run backend).transcript host past
    ⟨past ++ said, result⟩ :: runAll host (past ++ said) after rest

/-! ## What is expected of operations -/

namespace Operation

/-- The store after an operation of the account: a fork is put in, with the default branch of its
    parent. -/
def effect (account : PlainText) (store : Store) : Operation → Store
  | .fork owner name =>
    match store owner name with
    | some branch => store.put account name branch
    | none => store
  | _ => store

/-- The repository that an operation is to fork, or to open a pull request in, can be seen. -/
def IsPossible (store : Store) : Operation → Prop
  | .fork owner name => store owner name ≠ none
  | .createPullRequest owner name _ _ _ _ => store owner name ≠ none
  | _ => True

/-- What an operation of the account is to give. -/
def Expects (account : PlainText) (store : Store) : Operation → Outcome → Prop
  | .login, .login text => text = account.val
  | .repositoryExists owner name, .presence present => present = (store owner name).isSome
  | .fork _ _, .forked => True
  | .createPullRequest owner name base head title body, .opened pull =>
    Echoes owner name base head title body pull
  | _, _ => False

/-- The paths that an operation of the account asks for that leaves the given store. -/
def paths (account : PlainText) : Operation → Store → List (List PlainText)
  | .login, _ => [[.user]]
  | .repositoryExists owner name, _ => [[.repos, owner, name]]
  | .fork owner name, store => Live.forkPathsIn account owner name store
  | .createPullRequest owner name _ _ _ _, _ => Live.pullPaths owner name

end Operation

/-- Operations are possible one after the other. -/
def ArePossible (account : PlainText) : Store → List Operation → Prop
  | _, [] => True
  | store, operation :: rest =>
    operation.IsPossible store ∧ ArePossible account (operation.effect account store) rest

/-- In these steps, operations give what is expected one after the other, up to one that fails in a way that
    may be. -/
inductive Meets (account : PlainText) (mayFail : Operation → List Live.Said → Failure → Prop) :
    Store → List Operation → List Step → Prop where
  | nil (store : Store) : Meets account mayFail store [] []
  | given {store : Store} {operation : Operation} {past : List Live.Said} {outcome : Outcome}
      {rest : List Operation} {steps : List Step} (h : operation.Expects account store outcome)
      (hrest : Meets account mayFail (operation.effect account store) rest steps) :
      Meets account mayFail store (operation :: rest) (⟨past, .ok outcome⟩ :: steps)
  | failed {store : Store} {operation : Operation} {past : List Live.Said} {failure : Failure}
      {rest : List Operation} {steps : List Step} (h : mayFail operation past failure) :
      Meets account mayFail store (operation :: rest) (⟨past, .error failure⟩ :: steps)

/-! ## The live backend -/

/-- On the live backend, an operation ends with an outcome and a store that satisfy an assertion, unless
    the address of a request for one of the paths is too long. -/
structure Performs (live : Live) (site : Site) (account : PlainText)
    (paths : Store → List (List PlainText)) (before : Store) (achieved : Outcome → Store → Prop)
    (act : Act Outcome) : Prop where
  keeps : ∀ known, Remembers account known →
    (act.run.run (.live live known)).Keeps (Store.Allows site account) (fun _ => True)
      (fun ended after => Achieves site paths achieved ended.1 after ∧
        ∃ known, ended.2 = .live live known ∧ Remembers account known) before

theorem run_map_live {onLive : Live → Live.Act α} {onDryRun : DryRun → DryRun.Act α} (f : α → Outcome)
    (known : Live.Login) :
    (f <$> dispatch onLive onDryRun : Act Outcome).run.run (.live live known) =
      (onLive live).run.run known >>= fun ended => pure (ended.1.map f, .live live ended.2) := by
  have hdispatch : (dispatch onLive onDryRun).run.run (.live live known) =
      (onLive live).run.run known >>= fun ended => pure (ended.1, .live live ended.2) := rfl
  rw [ExceptT.run_map, StateT.run_map, hdispatch, map_eq_pure_bind, bind_assoc]
  rfl

/-- What an operation performs whose value is wrapped. -/
theorem performs_map {paths : Store → List (List PlainText)} {achieved : α → Store → Prop}
    {onLive : Live → Live.Act α} {onDryRun : DryRun → DryRun.Act α} {f : α → Outcome}
    {achieved' : Outcome → Store → Prop} (h : Acts site account paths before achieved (onLive live))
    (hwrap : ∀ value after, achieved value after → achieved' (f value) after) :
    Performs live site account paths before achieved' (f <$> dispatch onLive onDryRun) := by
  refine ⟨fun known hknown => ?_⟩
  rw [run_map_live]
  refine (h.keeps known hknown).bind fun ended after _ hended => ?_
  obtain ⟨result, known'⟩ := ended
  obtain ⟨hachieves, hknown'⟩ := hended
  refine ⟨trivial, ?_, known', rfl, hknown'⟩
  cases result with
  | ok value => exact hwrap value after hachieves
  | error failure => exact hachieves

/-- Every operation that is possible performs what is expected. -/
theorem performs_run (hlive : live.IsAt site) (operation : Operation)
    (hpossible : operation.IsPossible before) :
    Performs live site DryRun.account (operation.paths DryRun.account) before (fun outcome after =>
      operation.Expects DryRun.account before outcome ∧ after = operation.effect DryRun.account before)
      operation.run := by
  cases operation with
  | login =>
      exact performs_map (Live.acts_login hlive (fun _ => List.mem_cons_self) before)
        fun _ _ hlogin => ⟨hlogin.2, hlogin.1⟩
  | repositoryExists owner name =>
      exact performs_map (Live.acts_repositoryExists hlive (fun _ => List.mem_cons_self) before)
        fun _ _ hlook => ⟨hlook.2, hlook.1⟩
  | fork owner name =>
      obtain ⟨wanted, hwanted⟩ := Option.ne_none_iff_exists'.1 hpossible
      refine performs_map (Live.acts_fork hlive hwanted) fun _ after hafter => ⟨trivial, ?_⟩
      rw [Operation.effect, hwanted, hafter]
  | createPullRequest owner name base head title body =>
      obtain ⟨branch, hbranch⟩ := Option.ne_none_iff_exists'.1 hpossible
      have hcolon : ':' ∉ DryRun.account.val.toList := by decide +kernel
      exact performs_map (Live.acts_createPullRequest hlive hcolon hbranch base head title body)
        fun _ _ hpull => ⟨hpull.2, hpull.1⟩

/-- An operation fails since the address of one of its own requests is too long. -/
def NeedsTooLong (site : Site) (storeAfter : List Live.Said → Store) (operation : Operation)
    (past : List Live.Said) (failure : Failure) : Prop :=
  IsTooLongAmong site (operation.paths DryRun.account (storeAfter past)) failure

/-- **The live backend** gives what is expected, up to the first operation that needs a request whose
    address is too long. -/
theorem live_meets (hlive : live.IsAt site) {platform : Oracle Host.Answer}
    {storeAfter : List Live.Said → Store}
    (hkept : ∀ past question, Store.Allows site DryRun.account (storeAfter past)
      ⟨question, platform past question⟩ (storeAfter (past ++ [⟨question, platform past question⟩])))
    {past : List Live.Said} {known : Live.Login} (hknown : Remembers DryRun.account known)
    {operations : List Operation} (hpossible : ArePossible DryRun.account (storeAfter past) operations) :
    Meets DryRun.account (NeedsTooLong site storeAfter) (storeAfter past) operations
      (runAll platform past (.live live known) operations) := by
  induction operations generalizing past known with
  | nil => exact .nil _
  | cons operation rest ih =>
      obtain ⟨hfirst, hrest⟩ := hpossible
      have hended := (((performs_run hlive operation hfirst).keeps known hknown).transcript hkept).2
      rw [runAll]
      generalize (operation.run.run.run (.live live known)).transcript platform past = said at hended ⊢
      obtain ⟨said, result, backend⟩ := said
      obtain ⟨hachieves, known', rfl, hknown'⟩ := hended
      cases result with
      | ok outcome =>
          obtain ⟨hexpects, hstore⟩ : _ ∧ storeAfter (past ++ said) = _ := hachieves
          rw [← hstore] at hrest
          refine .given hexpects ?_
          rw [← hstore]
          exact ih hknown' hrest
      | error failure => exact .failed hachieves

/-! ## The dry run -/

theorem run_map_dryRun {onLive : Live → Live.Act α} {onDryRun : DryRun → DryRun.Act α} (f : α → Outcome) :
    (f <$> dispatch onLive onDryRun : Act Outcome).run.run (.dryRun dryRun forks) =
      (onDryRun dryRun).run forks >>= fun ended => pure (.ok (f ended.1), .dryRun dryRun ended.2) := by
  have hdispatch : (dispatch onLive onDryRun).run.run (.dryRun dryRun forks) =
      (onDryRun dryRun).run forks >>= fun ended => pure (.ok ended.1, .dryRun dryRun ended.2) := rfl
  rw [ExceptT.run_map, StateT.run_map, hdispatch, map_eq_pure_bind, bind_assoc]
  rfl

/-- In a dry run, an operation sends nothing and ends with an outcome and remembered forks that satisfy an
    assertion. -/
structure Plays (dryRun : DryRun) (forks : DryRun.Forks) (played : Outcome → DryRun.Forks → Prop)
    (act : Act Outcome) : Prop where
  always : (act.run.run (.dryRun dryRun forks)).Always (fun question => Live.isSend question = false)
    fun ended => ∃ outcome after, ended = (.ok outcome, .dryRun dryRun after) ∧ played outcome after

theorem plays_map {pretended : α → DryRun.Forks → Prop} {onLive : Live → Live.Act α}
    {onDryRun : DryRun → DryRun.Act α} {f : α → Outcome} {played : Outcome → DryRun.Forks → Prop}
    (h : DryRun.Pretends forks pretended (onDryRun dryRun))
    (hwrap : ∀ value after, pretended value after → played (f value) after) :
    Plays dryRun forks played (f <$> dispatch onLive onDryRun) := by
  refine ⟨?_⟩
  rw [run_map_dryRun]
  exact Dialogue.Always.bind h fun ended hended => ⟨_, _, rfl, hwrap _ _ hended⟩

/-- Every operation that is possible plays what is expected, and the dry run goes on to mirror the
    store. -/
theorem plays_run (hmirrors : dryRun.Mirrors store forks) (operation : Operation)
    (hpossible : operation.IsPossible store) :
    Plays dryRun forks (fun outcome after => operation.Expects DryRun.account store outcome ∧
      dryRun.Mirrors (operation.effect DryRun.account store) after) operation.run := by
  cases operation with
  | login =>
      refine plays_map (DryRun.pretends_login dryRun forks) fun text after hlogin => ?_
      exact ⟨hlogin.1, hlogin.2 ▸ hmirrors⟩
  | repositoryExists owner name =>
      refine plays_map (hmirrors.repositoryExists owner name) fun present after hlook => ?_
      exact ⟨hlook.1, hlook.2 ▸ hmirrors⟩
  | fork owner name =>
      obtain ⟨wanted, hwanted⟩ := Option.ne_none_iff_exists'.1 hpossible
      refine plays_map (DryRun.pretends_fork dryRun forks owner.val name.val)
        fun _ after hafter => ⟨trivial, ?_⟩
      rw [Operation.effect, hwanted, hafter]
      exact hmirrors.put name wanted
  | createPullRequest owner name base head title body =>
      refine plays_map (DryRun.pretends_createPullRequest dryRun forks owner.val name.val base.val
        head.val title body) fun pull after hpull => ?_
      obtain ⟨rfl, now, rfl⟩ := hpull
      exact ⟨⟨rfl, rfl, rfl, rfl, rfl, rfl, rfl, rfl⟩, hmirrors⟩

/-- **A dry run** that mirrors the store always gives what is expected. -/
theorem dryRun_meets (hmirrors : dryRun.Mirrors store forks) (host : Oracle Host.Answer)
    (past : List Live.Said) {operations : List Operation}
    (hpossible : ArePossible DryRun.account store operations) :
    Meets DryRun.account (fun _ _ _ => False) store operations
      (runAll host past (.dryRun dryRun forks) operations) := by
  induction operations generalizing store forks past with
  | nil => exact .nil store
  | cons operation rest ih =>
      obtain ⟨hfirst, hrest⟩ := hpossible
      have hended := ((plays_run hmirrors operation hfirst).always.leads
        (Dialogue.leads_transcript host past _)).2
      rw [runAll]
      generalize (operation.run.run.run (.dryRun dryRun forks)).transcript host past = said at hended ⊢
      obtain ⟨said, ended⟩ := said
      obtain ⟨outcome, after, rfl, hexpects, hmirrors'⟩ := hended
      exact .given hexpects (ih hmirrors' (past ++ said) hrest)

/-! ## Agreement -/

/-- Two pull requests are open and say the same. -/
structure SamePull (first second : PullRequest) : Prop where
  owner : first.owner = second.owner
  repo : first.repo = second.repo
  title : first.title = second.title
  body : first.body = second.body
  state : first.state = second.state
  head : first.head.branch = second.head.branch
  base : first.base.branch = second.base.branch
  repository : first.base.repository = second.base.repository

/-- Two outcomes say the same. -/
def Outcome.Agrees : Outcome → Outcome → Prop
  | .login first, .login second => first = second
  | .presence first, .presence second => first = second
  | .forked, .forked => True
  | .opened first, .opened second => SamePull first second
  | _, _ => False

/-- In these steps of operations on the live backend and on a dry run, the outcomes agree one by one, up to
    a first operation, if there is one, that fails on the live backend since the address of one of its own
    requests is too long. The dry run carries that operation out. -/
inductive AgreeUntil (site : Site) (storeAfter : List Live.Said → Store) :
    List Operation → List Step → List Step → Prop where
  | nil : AgreeUntil site storeAfter [] [] []
  | agreed {operation : Operation} {past past' : List Live.Said} {first second : Outcome}
      {rest : List Operation} {steps steps' : List Step} (h : first.Agrees second)
      (hrest : AgreeUntil site storeAfter rest steps steps') :
      AgreeUntil site storeAfter (operation :: rest) (⟨past, .ok first⟩ :: steps)
        (⟨past', .ok second⟩ :: steps')
  | failed {operation : Operation} {past past' : List Live.Said} {failure : Failure} {second : Outcome}
      {rest : List Operation} {steps steps' : List Step}
      (h : NeedsTooLong site storeAfter operation past failure) :
      AgreeUntil site storeAfter (operation :: rest) (⟨past, .error failure⟩ :: steps)
        (⟨past', .ok second⟩ :: steps')

theorem samePull_of_echoes {owner name base head : PlainText} {title body : String}
    {first second : PullRequest} (h : Echoes owner name base head title body first)
    (h' : Echoes owner name base head title body second) : SamePull first second where
  owner := h.owner.trans h'.owner.symm
  repo := h.repo.trans h'.repo.symm
  title := h.title.trans h'.title.symm
  body := h.body.trans h'.body.symm
  state := h.state.trans h'.state.symm
  head := h.head.trans h'.head.symm
  base := h.base.trans h'.base.symm
  repository := h.repository.trans h'.repository.symm

/-- What is expected of an operation leaves no choice. -/
theorem agrees_of_expects {operation : Operation} {first second : Outcome}
    (h : operation.Expects account store first) (h' : operation.Expects account store second) :
    first.Agrees second := by
  cases operation with
  | login =>
      cases first <;> cases second <;> try contradiction
      exact h.trans h'.symm
  | repositoryExists owner name =>
      cases first <;> cases second <;> try contradiction
      exact h.trans h'.symm
  | fork owner name =>
      cases first <;> cases second <;> try contradiction
      exact trivial
  | createPullRequest owner name base head title body =>
      cases first <;> cases second <;> try contradiction
      exact samePull_of_echoes h h'

theorem agreeUntil_of_meets {storeAfter : List Live.Said → Store} {operations : List Operation}
    {steps steps' : List Step} (h : Meets account (NeedsTooLong site storeAfter) store operations steps)
    (h' : Meets account (fun _ _ _ => False) store operations steps') :
    AgreeUntil site storeAfter operations steps steps' := by
  induction h generalizing steps' with
  | nil store =>
      cases h'
      exact .nil
  | given hexpects _ ih =>
      cases h' with
      | given hexpects' hrest => exact .agreed (agrees_of_expects hexpects hexpects') (ih hrest)
      | failed hnever => exact absurd hnever id
  | failed hfailed =>
      cases h' with
      | given _ _ => exact .failed hfailed
      | failed hnever => exact absurd hnever id

/-- **The backends agree.** Let the platform keep a store that holds the known repositories and the
    registered ones and no others, none of them owned by the account of the dry run. Then the live backend
    and a dry run give the same for all operations that are possible one after the other, up to the first
    one that needs a request whose address is too long. That one fails on the live backend for this very
    reason, and the dry run carries it out. -/
theorem backends_agree (hlive : live.IsAt site) {platform : Oracle Host.Answer}
    {storeAfter : List Live.Said → Store}
    (hkept : ∀ past question, Store.Allows site DryRun.account (storeAfter past)
      ⟨question, platform past question⟩ (storeAfter (past ++ [⟨question, platform past question⟩])))
    {registered : List (PlainText × PlainText)}
    (hothers : ∀ repository ∈ registered, repository.1 ≠ DryRun.account)
    (hstore : DryRun.HoldsKnown registered (storeAfter [])) (client : Git.Client)
    (host : Oracle Host.Answer) (operations : List Operation)
    (hpossible : ArePossible DryRun.account (storeAfter []) operations) :
    AgreeUntil site storeAfter operations (runAll platform [] (.live live none) operations)
      (runAll host [] (.dryRun (DryRun.registering client registered) []) operations) :=
  agreeUntil_of_meets (live_meets hlive hkept Live.remembers_none hpossible)
    (dryRun_meets (DryRun.mirrors_registering client hothers hstore) host [] hpossible)

/-! ## A platform with the known repositories -/

/-- The known repositories with the default branch "main", and the registered ones with "trunk". -/
def knownStore (registered : List (PlainText × PlainText)) : Store := fun owner name =>
  if DryRun.repositoryText owner name ∈ knownRepositories then some ⟨"main", by decide +kernel⟩
  else if (owner, name) ∈ registered then some ⟨"trunk", by decide +kernel⟩
  else none

theorem holdsKnown_knownStore (registered : List (PlainText × PlainText)) :
    DryRun.HoldsKnown registered (knownStore registered) := by
  intro owner name
  unfold knownStore
  split
  · next hknown => exact iff_of_true nofun (Or.inl hknown)
  · next hunknown =>
      rw [or_iff_right hunknown]
      split
      · next hregistered => exact iff_of_true nofun hregistered
      · next hnew => exact iff_of_false (fun hne => hne rfl) hnew

/-- The public platform with these repositories. New forks have the default branch "fresh". -/
def simulatePublic (store : Store) : (question : Host.Question) → Host.Answer question × Store :=
  store.simulate Live.publicSite DryRun.account ⟨"fresh", by decide +kernel⟩

theorem allows_simulatePublic (registered : List (PlainText × PlainText)) (past : List Live.Said)
    (question : Host.Question) :
    Store.Allows Live.publicSite DryRun.account
      (Dialogue.simulatedAfter simulatePublic (knownStore registered) past)
      ⟨question, Dialogue.simulated simulatePublic (knownStore registered) past question⟩
      (Dialogue.simulatedAfter simulatePublic (knownStore registered)
        (past ++ [⟨question, Dialogue.simulated simulatePublic (knownStore registered) past question⟩])) :=
  Dialogue.allows_simulated _ _ (Store.allows_simulate _ _ _) past question

/-- A backend on the public platform. -/
def publicLive : Live where
  token := "secret"
  client := {}

def condaForge : PlainText := ⟨"conda-forge", by decide +kernel⟩

def polars : PlainText := ⟨"polars-feedstock", by decide +kernel⟩

/-- A private repository with the name of a known one. -/
def namesake : PlainText × PlainText := (⟨"jdoe", by decide +kernel⟩, polars)

/-- Both repositories of one name are forked, one after the other, and a pull request is opened in the
    fork. -/
def twoForks : List Operation := [
  .login,
  .fork condaForge polars,
  .fork namesake.1 polars,
  .repositoryExists DryRun.account polars,
  .createPullRequest DryRun.account polars ⟨"trunk", by decide +kernel⟩ ⟨"patch-1", by decide +kernel⟩ "Title" "Body"]

theorem arePossible_twoForks : ArePossible DryRun.account (knownStore [namesake]) twoForks := by
  refine ⟨trivial, ?_, ?_, trivial, ?_, trivial⟩
  all_goals
    show Operation.effect _ _ _ _ _ ≠ none
    decide +kernel

theorem two_forks_agree :
    let start := knownStore [namesake]
    let platform := Dialogue.simulated simulatePublic start
    let storeAfter := Dialogue.simulatedAfter simulatePublic start
    let host := fun (_ : List Live.Said) question => nothingThere question
    publicLive.IsAt Live.publicSite ∧
      (∀ past question, Store.Allows Live.publicSite DryRun.account (storeAfter past)
        ⟨question, platform past question⟩ (storeAfter (past ++ [⟨question, platform past question⟩]))) ∧
      (∀ repository ∈ [namesake], repository.1 ≠ DryRun.account) ∧
      DryRun.HoldsKnown [namesake] (storeAfter []) ∧
      ArePossible DryRun.account (storeAfter []) twoForks ∧
      AgreeUntil Live.publicSite storeAfter twoForks (runAll platform [] (.live publicLive none) twoForks)
        (runAll host [] (.dryRun (DryRun.registering {} [namesake]) []) twoForks) := by
  intro start platform storeAfter host
  have hlive : publicLive.IsAt Live.publicSite := Live.isAt_publicSite rfl (by decide +kernel)
  have hkept := allows_simulatePublic [namesake]
  have hothers : ∀ repository ∈ [namesake], repository.1 ≠ DryRun.account := by decide +kernel
  have hstore : DryRun.HoldsKnown [namesake] (storeAfter []) := holdsKnown_knownStore [namesake]
  have hpossible : ArePossible DryRun.account (storeAfter []) twoForks := arePossible_twoForks
  exact ⟨hlive, hkept, hothers, hstore, hpossible,
    backends_agree hlive hkept hothers hstore {} host twoForks hpossible⟩

/-- A look for a repository fails where its address is too long. -/
theorem run_repositoryExists_of_not_fits (hlive : live.IsAt site) {owner name : PlainText}
    (h : ¬ Live.Fits site (PlainText.segments [.repos, owner, name])) (known : Live.Login) :
    (Operation.repositoryExists owner name).run.run.run (.live live known) =
      pure (.error (.platform (.request (Live.tooLong site (PlainText.segments [.repos, owner, name])))),
        .live live known) := by
  have hsend : live.send .get (Segments.text (PlainText.segments [.repos, owner, name])) none =
      Attempt.failPlatform (.request (Live.tooLong site (PlainText.segments [.repos, owner, name]))) :=
    Live.send_of_not_fits hlive (List.cons_ne_nil _ _) h
  have hcheck : (live.repositoryExists owner.val name.val).run.run known =
      pure (.error (.platform (.request (Live.tooLong site (PlainText.segments [.repos, owner, name])))),
        known) := by
    unfold Live.repositoryExists Live.checkRepository
    rw [Live.repositoryPath_eq, hsend]
    rfl
  exact (run_map_live _ known).trans (congrArg (· >>= _) hcheck)

/-- A plain name of any length. -/
def nameOfLength (length : Nat) : PlainText where
  val := String.ofList (List.replicate length 'a')
  property := by
    rw [String.toList_ofList]
    refine ⟨fun c hc => ?_, fun heq => ?_, fun heq => ?_⟩
    · rw [List.eq_of_mem_replicate hc]
      rfl
    · exact absurd (List.eq_of_mem_replicate (heq ▸ List.mem_cons_self)) (by decide : '.' ≠ 'a')
    · exact absurd (List.eq_of_mem_replicate (heq ▸ List.mem_cons_self)) (by decide : '.' ≠ 'a')

theorem length_nameOfLength (length : Nat) : (nameOfLength length).val.toList.length = length := by
  rw [nameOfLength, String.toList_ofList, List.length_replicate]

theorem not_fits_nameOfLength (site : Site) (owner : PlainText) {length : Nat}
    (h : Url.maxLength < length) :
    ¬ Live.Fits site (PlainText.segments [.repos, owner, nameOfLength length]) := by
  have hmem : (nameOfLength length).val.toList ∈
      PlainText.segments [.repos, owner, nameOfLength length] :=
    List.mem_map_of_mem (by simp)
  exact Live.not_fits_of_mem hmem (by rwa [length_nameOfLength])

/-- No name as long as that is known. -/
theorem knownStore_nameOfLength (owner : PlainText) {length : Nat} (h : 40 < length) :
    knownStore [] owner (nameOfLength length) = none := by
  have hshort : ∀ text ∈ knownRepositories, text.toList.length ≤ 40 := by decide +kernel
  have hlong : length ≤ (DryRun.repositoryText owner (nameOfLength length)).toList.length := by
    simp [toString, DryRun.repositoryText, length_nameOfLength]
    omega
  rw [knownStore, if_neg fun hmem => absurd (hshort _ hmem) (by omega), if_neg List.not_mem_nil]

/-- The live backend cannot look for a repository with a name of such a length. -/
theorem live_looks_for_long (platform : Oracle Host.Answer) (hlive : live.IsAt site) (owner : PlainText)
    {length : Nat} (h : Url.maxLength < length) :
    (runAll platform [] (.live live none) [.repositoryExists owner (nameOfLength length)]).map Step.result =
      [.error (.platform (.request
        (Live.tooLong site (PlainText.segments [.repos, owner, nameOfLength length]))))] := by
  have hrun := run_repositoryExists_of_not_fits hlive (not_fits_nameOfLength site owner h) none
  rw [runAll, hrun]
  rfl

/-- To a dry run, a repository with such a name does not exist. -/
theorem dryRun_looks_for_long (host : Oracle Host.Answer) (owner : PlainText) {length : Nat}
    (h : 40 < length) :
    (runAll host [] (.dryRun (DryRun.registering {} []) [])
      [.repositoryExists owner (nameOfLength length)]).map Step.result = [.ok (.presence false)] := by
  have hothers : ∀ repository ∈ ([] : List (PlainText × PlainText)), repository.1 ≠ DryRun.account := nofun
  have hmirrors := DryRun.mirrors_registering {} hothers (holdsKnown_knownStore [])
  have hpossible : ArePossible DryRun.account (knownStore [])
      [.repositoryExists owner (nameOfLength length)] := ⟨trivial, trivial⟩
  have hmeets := dryRun_meets hmirrors host [] hpossible
  generalize runAll host [] _ _ = steps at hmeets ⊢
  cases hmeets with
  | failed hnever => exact absurd hnever id
  | @given _ _ _ outcome _ _ hexpects hrest =>
      cases hrest
      cases outcome with
      | presence present =>
          have hpresent : present = (knownStore [] owner (nameOfLength length)).isSome := hexpects
          rw [hpresent, knownStore_nameOfLength owner h]
          rfl
      | login _ | forked | opened _ => exact absurd hexpects id

/-- Where the address of a request is too long, the live backend fails, and a dry run does not. -/
theorem long_name_disagrees :
    let start := knownStore []
    let platform := Dialogue.simulated simulatePublic start
    let storeAfter := Dialogue.simulatedAfter simulatePublic start
    let host := fun (_ : List Live.Said) question => nothingThere question
    let operations := [Operation.repositoryExists condaForge (nameOfLength 65535)]
    let onLive := (runAll platform [] (.live publicLive none) operations).map Step.result
    let onDryRun := (runAll host [] (.dryRun (DryRun.registering {} []) []) operations).map Step.result
    publicLive.IsAt Live.publicSite ∧ 1 ≤ publicLive.timing.attempts ∧
      (∀ past question, Store.Allows Live.publicSite DryRun.account (storeAfter past)
        ⟨question, platform past question⟩ (storeAfter (past ++ [⟨question, platform past question⟩]))) ∧
      DryRun.HoldsKnown [] (storeAfter []) ∧ ArePossible DryRun.account (storeAfter []) operations ∧
      onLive = [.error (.platform (.request (Live.tooLong Live.publicSite
        (PlainText.segments [.repos, condaForge, nameOfLength 65535]))))] ∧
      onDryRun = [.ok (.presence false)] ∧ onLive ≠ onDryRun := by
  intro start platform storeAfter host operations onLive onDryRun
  have hlive : publicLive.IsAt Live.publicSite := Live.isAt_publicSite rfl (by decide +kernel)
  have hfailed := live_looks_for_long platform hlive condaForge (Nat.lt_succ_self 65534)
  have hplayed := dryRun_looks_for_long host condaForge (Nat.le_of_ble_eq_true rfl : 40 < 65535)
  refine ⟨hlive, Nat.le_refl 1, allows_simulatePublic [], holdsKnown_knownStore [], ⟨trivial, trivial⟩,
    hfailed, hplayed, fun hsame => ?_⟩
  have hresults := hfailed.symm.trans (hsame.trans hplayed)
  exact absurd (List.cons.inj hresults).1 nofun

end PullRequestBot.Backend
