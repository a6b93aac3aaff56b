import PullRequestBot.Proofs.Hosting.Call
import PullRequestBot.Proofs.Hosting.Known
import PullRequestBot.Proofs.Hosting.Platform

set_option autoImplicit false

/-! # A dry run mirrors a store

A dry run knows repositories of other owners, and it remembers forks by their names. It mirrors a store
if these are what can be seen there. It tells then of every repository what the store tells
(`Mirrors.repositoryExists`), it goes on to do so after a fork (`Mirrors.put`), and it sends nothing. -/

namespace PullRequestBot.DryRun

variable {α : Type} {dryRun : DryRun} {store : Store} {forks : Forks} {owner name : PlainText}

/-! ## Repositories as texts -/

/-- The account of the dry run. -/
def account : PlainText := ⟨dryRunLogin, by decide +kernel⟩

theorem owner_eq_account_iff : owner.val = dryRunLogin ↔ owner = account :=
  ⟨fun h => Subtype.ext h, congrArg Subtype.val⟩

/-- The text by which a dry run knows a repository. -/
abbrev repositoryText (owner name : PlainText) : String :=
  s!"{owner.val}/{name.val}"

/-! ## Registered repositories -/

/-- A new dry run in which further repositories are registered. -/
def registering (client : Git.Client) (registered : List (PlainText × PlainText)) : DryRun :=
  registered.foldl (fun dryRun repository => dryRun.withKnown repository.1.val repository.2.val)
    { client := client }

/-- The same, with the repositories named by texts. -/
theorem registering_eq (client : Git.Client) (repositories : List (PlainText × PlainText)) :
    registering client repositories =
      registered client (repositories.map fun repository => (repository.1.val, repository.2.val)) := by
  rw [registered, List.foldl_map]
  rfl

theorem mem_known_registering (client : Git.Client) (repositories : List (PlainText × PlainText)) :
    repositoryText owner name ∈ (registering client repositories).known ↔
      repositoryText owner name ∈ knownRepositories ∨ (owner, name) ∈ repositories := by
  have hnamed : (owner.val, name.val) ∈
      repositories.map (fun repository => (repository.1.val, repository.2.val)) ↔
        (owner, name) ∈ repositories := by
    rw [List.mem_map]
    constructor
    · rintro ⟨repository, hmem, htexts⟩
      obtain ⟨howner, hname⟩ := Prod.mk.inj htexts
      exact (Prod.ext (Subtype.ext howner) (Subtype.ext hname) : repository = (owner, name)) ▸ hmem
    · exact fun hmem => ⟨(owner, name), hmem, rfl⟩
  rw [registering_eq, ← hnamed]
  exact mem_known_registered (owner.property.not_mem rfl) (name.property.not_mem rfl) client _

/-- A store holds the known repositories and the registered ones, and no others. -/
def HoldsKnown (registered : List (PlainText × PlainText)) (store : Store) : Prop :=
  ∀ owner name, store owner name ≠ none ↔
    repositoryText owner name ∈ knownRepositories ∨ (owner, name) ∈ registered

/-! ## Mirrors -/

/-- What a dry run takes to exist is what can be seen in a store: the forks that it remembers, and the
    repositories of other owners that it knows. -/
structure Mirrors (dryRun : DryRun) (store : Store) (forks : Forks) : Prop where
  forks : ∀ name, (store account name).isSome = forks.contains name.val
  known : ∀ owner name, owner ≠ account →
    (store owner name).isSome = dryRun.known.contains (repositoryText owner name)

/-- None of the known repositories is one of the account. -/
theorem account_not_known (name : PlainText) : repositoryText account name ∉ knownRepositories := by
  have hfirst : ∀ text ∈ knownRepositories, text.toList.head? ≠ some 'a' := by decide +kernel
  intro hmem
  refine hfirst _ hmem ?_
  simp [toString, account, dryRunLogin]

/-- A new dry run mirrors a store that holds what it knows, none of it owned by the account. -/
theorem mirrors_registering (client : Git.Client) {registered : List (PlainText × PlainText)}
    (hothers : ∀ repository ∈ registered, repository.1 ≠ account)
    (hstore : HoldsKnown registered store) : (registering client registered).Mirrors store [] where
  forks name := by
    cases hthere : store account name with
    | none => rfl
    | some branch =>
        rcases (hstore account name).1 (by rw [hthere]; nofun) with hknown | hregistered
        · exact absurd hknown (account_not_known name)
        · exact absurd rfl (hothers _ hregistered)
  known owner name _ := by
    rw [Bool.eq_iff_iff, List.contains_iff_mem, mem_known_registering, ← hstore owner name,
      Option.isSome_iff_ne_none]

/-- A dry run goes on to mirror the store when a fork is made. -/
theorem Mirrors.put (h : dryRun.Mirrors store forks) (name branch : PlainText) :
    dryRun.Mirrors (store.put account name branch) (remember forks name.val) where
  forks name' := by
    rw [Bool.eq_iff_iff, List.contains_iff_mem, mem_remember]
    by_cases heq : name' = name
    · subst heq
      rw [Store.put_self]
      exact iff_of_true rfl (Or.inl rfl)
    · have hne : name'.val ≠ name.val := fun hval => heq (Subtype.ext hval)
      rw [Store.put_of_ne fun hboth => heq hboth.2, h.forks name', List.contains_iff_mem,
        or_iff_right hne]
  known owner name' howner := by
    rw [Store.put_of_ne fun hboth => howner hboth.1]
    exact h.known owner name' howner

/-! ## Operations -/

/-- Whatever the answers are, an operation sends nothing, and its value and the forks remembered at the
    end satisfy an assertion. -/
def Pretends (forks : Forks) (ended : α → Forks → Prop) (act : Act α) : Prop :=
  (act.run forks).Always (fun question => Live.isSend question = false)
    fun value => ended value.1 value.2

theorem pretends_login (dryRun : DryRun) (forks : Forks) :
    Pretends forks (fun text after => text = dryRunLogin ∧ after = forks) dryRun.login :=
  ⟨rfl, rfl⟩

/-- Of every repository, a dry run tells what the store tells that it mirrors. -/
theorem Mirrors.repositoryExists (h : dryRun.Mirrors store forks) (owner name : PlainText) :
    Pretends forks (fun present after => present = (store owner name).isSome ∧ after = forks)
      (dryRun.repositoryExists owner.val name.val) := by
  unfold Pretends DryRun.repositoryExists
  by_cases howner : owner = account
  · subst howner
    rw [if_pos (owner_eq_account_iff.2 rfl)]
    exact ⟨(h.forks name).symm, rfl⟩
  · rw [if_neg fun heq => howner (owner_eq_account_iff.1 heq)]
    exact ⟨(h.known owner name howner).symm, rfl⟩

theorem pretends_fork (dryRun : DryRun) (forks : Forks) (owner name : String) :
    Pretends forks (fun _ after => after = remember forks name) (dryRun.fork owner name) := by
  rw [Pretends, run_fork]
  exact ⟨rfl, fun _ => ⟨rfl, fun _ => rfl⟩⟩

theorem pretends_createPullRequest (dryRun : DryRun) (forks : Forks)
    (owner name base head title body : String) :
    Pretends forks (fun pull after => after = forks ∧ ∃ now,
        pull = pretendedPullRequest owner name base head title body now)
      (dryRun.createPullRequest owner name base head title body) :=
  ⟨rfl, fun _ => ⟨rfl, fun now => ⟨rfl, now, rfl⟩⟩⟩

end PullRequestBot.DryRun
