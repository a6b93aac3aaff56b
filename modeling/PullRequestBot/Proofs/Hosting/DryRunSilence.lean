import PullRequestBot.Hosting.Selection
import PullRequestBot.Proofs.Git.Locality
import PullRequestBot.Proofs.Hosting.Task

set_option autoImplicit false

/-! # A dry run is silent

Whatever the host answers, a backend that only pretends sends no request and starts no push, and it goes on
pretending (`staysDry_run`). It still tells of events, reads files and runs the other git commands. -/

namespace PullRequestBot

open Dialogue (Always Settles)
open Host (ask tell)

variable {α β : Type}

/-! ## Dry questions -/

/-- Neither a request nor a push. -/
def Host.IsDry : Host.Question → Prop
  | .send _ _ => False
  | .run process => process.arguments.head? ≠ some "push"
  | _ => True

open Host (IsDry)

/-- Of the git commands, only a push starts with that word. -/
theorem Git.permitsButPush_head :
    Git.PermitsButPush fun arguments => arguments.head? ≠ some "push" := by
  intro command hcommand
  cases command with
  | push remote branch => exact absurd rfl (hcommand remote branch)
  | _ => exact fun h => absurd (Option.some.inj h) (by decide)

theorem Git.isDry_of_isLocal {q : Host.Question}
    (h : Git.IsLocal (fun arguments => arguments.head? ≠ some "push") q) : IsDry q := by
  cases q with
  | run process => exact h
  | send _ _ => exact h.elim
  | _ => exact trivial

namespace Backend

/-! ## Operations on a backend -/

/-- Carried out by a backend that only pretends, an operation asks dry questions alone, and leaves such a
    backend. -/
def StaysDry (act : Act α) : Prop :=
  ∀ backend : Backend, backend.isDryRun = true →
    (act.run.run backend).Always IsDry fun ended => ended.2.isDryRun = true

theorem staysDry_pure (value : α) : StaysDry (pure value) :=
  fun _ hbackend => hbackend

theorem staysDry_throw (failure : Failure) : StaysDry (throw failure : Act α) :=
  fun _ hbackend => hbackend

theorem StaysDry.bind {first : Act α} {next : α → Act β} (h : StaysDry first)
    (hnext : ∀ value, StaysDry (next value)) : StaysDry (first >>= next) := by
  intro backend hbackend
  refine (h backend hbackend).bind fun ended hended => ?_
  obtain ⟨result, middle⟩ := ended
  cases result with
  | ok value => exact hnext value middle hended
  | error failure => exact hended

/-- It takes that the dry run's own operation is dry. -/
theorem staysDry_dispatch {onLive : Live → Live.Act α} {onDryRun : DryRun → DryRun.Act α}
    (h : ∀ dryRun forks, ((onDryRun dryRun).run forks).Always IsDry fun _ => True) :
    StaysDry (dispatch onLive onDryRun) := by
  intro backend hbackend
  cases backend with
  | live _ _ => exact absurd hbackend Bool.false_ne_true
  | dryRun dryRun forks => exact (h dryRun forks).bind fun _ _ => rfl

theorem staysDry_withClient {attempt : Git.Client → Attempt α}
    (h : ∀ client, Git.TriesLocally (fun arguments => arguments.head? ≠ some "push") (attempt client)) :
    StaysDry (withClient attempt) :=
  fun backend hbackend =>
    Always.bind ((h backend.client).imp (fun _ => Git.isDry_of_isLocal) fun _ => id) fun _ _ => hbackend

/-- Telling of an event is dry. -/
theorem always_tell {severity : Log.Severity} {source : Log.Source} {message : String}
    {fields : List (String × Log.Value)} :
    (tell severity source message fields).Always IsDry fun _ => True :=
  Dialogue.always_question trivial

theorem staysDry_fork (owner name : String) : StaysDry (fork owner name) := by
  refine staysDry_dispatch fun dryRun forks => ?_
  show Always _ _ ((if _ then _ else _ : DryRun.Act Unit).run forks)
  split
  · exact ⟨trivial, fun _ => ⟨trivial, fun _ => trivial⟩⟩
  · exact ⟨trivial, fun _ => ⟨trivial, fun _ => trivial⟩⟩

theorem staysDry_originUrl (owner name : String) : StaysDry (originUrl owner name) :=
  staysDry_dispatch fun _ _ => trivial

theorem staysDry_prepare (owner name directory newBranch baseBranch : String) :
    StaysDry (prepare owner name directory newBranch baseBranch) :=
  (staysDry_originUrl owner name).bind fun _ =>
    (staysDry_withClient fun client => client.triesLocally_branch Git.permitsButPush_head _).bind
      fun _ => staysDry_pure ()

/-- **Silence.** Whatever a backend is asked to do that only pretends, it neither sends nor pushes, whatever
    the host answers, and it only pretends from then on. -/
theorem staysDry_run (task : Task) : StaysDry task.run := by
  cases task with
  | login => exact staysDry_dispatch fun _ _ => trivial
  | repositoryExists owner name =>
      refine staysDry_dispatch fun dryRun forks => ?_
      show Always _ _ ((if _ then _ else _ : DryRun.Act Bool).run forks)
      split <;> exact trivial
  | fork owner name => exact staysDry_fork owner name
  | push owner name directory branch => exact staysDry_dispatch fun _ _ => ⟨trivial, fun _ => trivial⟩
  | createPullRequest owner name base head title body =>
      exact staysDry_dispatch fun _ _ => ⟨trivial, fun _ => ⟨trivial, fun _ => trivial⟩⟩
  | comment owner name number body => exact staysDry_dispatch fun _ _ => ⟨trivial, fun _ => trivial⟩
  | requestsLeft => exact staysDry_dispatch fun _ _ => trivial
  | originUrl owner name => exact staysDry_originUrl owner name
  | prepare owner name directory newBranch baseBranch =>
      exact staysDry_prepare owner name directory newBranch baseBranch

/-! ## The backend that the settings ask for -/

/-- Settings that ask for a dry run get a backend that only pretends. -/
theorem always_ofSettings {settings : Settings} (h : settings.dryRun = true) :
    (ofSettings settings).run.Always IsDry
      (Settles (fun backend => backend.isDryRun = true) fun _ => True) := by
  have hlocate : Git.Runner.locate.Always IsDry fun _ => True := by
    refine ⟨trivial, fun place => ?_⟩
    cases place with
    | some path => exact trivial
    | none => exact ⟨trivial, fun _ => trivial⟩
  refine Always.run_lift_bind hlocate fun runner => ?_
  dsimp only
  rw [if_pos h]
  exact Always.run_lift_bind always_tell fun _ => rfl

end Backend

end PullRequestBot
