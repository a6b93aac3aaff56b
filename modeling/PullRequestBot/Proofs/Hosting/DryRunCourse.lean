import PullRequestBot.Proofs.Host.World
import PullRequestBot.Proofs.Hosting.Known
import PullRequestBot.Proofs.Hosting.Mirror
import PullRequestBot.Proofs.Hosting.Task

set_option autoImplicit false

/-! # The course of a dry run

All that a dry run remembers are the names of the forks it was asked for. So what it gives, and what it
tells of forks, can be told from the repositories registered at its start and from the operations before:
the forks asked for are there, of the repositories of others the known and the registered ones are, a fork
is announced when its name is asked for first, and no operation fails (`course_of_dryRun`). `accords_run`
says it of one operation, and `accords_reports` carries it through a sequence. -/

namespace PullRequestBot.DryRun

open Backend (Report Task)
open Dialogue (Exchange Oracle)

variable {dryRun : DryRun} {forks : Forks} {repositories : List (String × String)}
  {said : List (Exchange Host.Answer)}

/-! ## What an operation is to give -/

/-- The names of the forks that operations ask for. -/
def forkNames (tasks : List Task) : List String :=
  tasks.filterMap fun
    | .fork _ name => some name
    | _ => none

theorem forkNames_append (tasks later : List Task) :
    forkNames (tasks ++ later) = forkNames tasks ++ forkNames later :=
  List.filterMap_append

/-- Whether a repository is there, if some are registered and forks of some names were asked for. -/
def IsThere (repositories : List (String × String)) (forked : List String) (owner name : String) : Prop :=
  if owner = dryRunLogin then name ∈ forked
  else s!"{owner}/{name}" ∈ knownRepositories ∨ (owner, name) ∈ repositories

/-- What an operation is to give: a value always, and of a repository whether it is there. -/
def Gives (repositories : List (String × String)) (forked : List String) :
    (task : Task) → Except Failure task.Result → Prop
  | .repositoryExists owner name, result =>
    ∃ present, result = .ok present ∧ (present = true ↔ IsThere repositories forked owner name)
  | _, result => ∃ value, result = .ok value

/-- An operation on the platform alone. A repository that is looked for has no slash in its owner and its
    name, so that these can be told from its text. -/
def IsCovered : Task → Prop
  | .prepare _ _ _ _ _ => False
  | .repositoryExists owner name => '/' ∉ owner.toList ∧ '/' ∉ name.toList
  | _ => True

instance : DecidablePred IsCovered
  | .prepare _ _ _ _ _ => inferInstanceAs (Decidable False)
  | .repositoryExists owner name =>
    inferInstanceAs (Decidable ('/' ∉ owner.toList ∧ '/' ∉ name.toList))
  | .login | .fork _ _ | .push _ _ _ _ | .createPullRequest _ _ _ _ _ _ | .comment _ _ _ _
  | .requestsLeft | .originUrl _ _ => inferInstanceAs (Decidable True)

/-! ## What is told of forks -/

/-- The events told of, in order. -/
def told (said : List (Exchange Host.Answer)) : List Log.Event :=
  said.filterMap fun exchange =>
    match exchange.question with
    | .tell event => some event
    | _ => none

/-- Whether an event tells that a fork is made, or brought up to date. -/
def isForkNews (event : Log.Event) : Bool :=
  ["Dry Run: Creating fork", "Dry Run: Syncing default branch"].any fun start =>
    start.toList.isPrefixOf event.message.toList

theorem isForkNews_creating (owner name : String) : isForkNews (creating owner name) = true := by
  simp [isForkNews, creating, List.isPrefixOf, toString]

theorem isForkNews_existing (name : String) : isForkNews (existing name) = false := by
  simp [isForkNews, existing, List.isPrefixOf, toString]

theorem isForkNews_syncing (owner name : String) : isForkNews (syncing owner name) = true := by
  simp [isForkNews, syncing, List.isPrefixOf, toString]

/-- The news of forks that an operation is to tell, if forks of some names were asked for before. -/
def news (forked : List String) : Task → List Log.Event
  | .fork owner name =>
    (if name ∈ forked then [] else [creating owner name]) ++ [syncing owner name]
  | _ => []

/-- What an operation is to give and to tell, if forks of some names were asked for before. -/
structure Accords (repositories : List (String × String)) (forked : List String) (task : Task)
    (said : List (Exchange Host.Answer)) (result : Except Failure task.Result) : Prop where
  gives : Gives repositories forked task result
  news : (told said).filter isForkNews = news forked task

/-! ## Operations that make no fork -/

/-- A question that tells nothing of forks. -/
def TellsNoNews : Host.Question → Prop
  | .tell event => isForkNews event = false
  | _ => True

theorem filter_told_eq_nil (h : ∀ exchange ∈ said, TellsNoNews exchange.question) :
    (told said).filter isForkNews = [] := by
  refine List.filter_eq_nil_iff.2 fun event hevent => ?_
  obtain ⟨⟨question, answer⟩, hmem, htold⟩ := List.mem_filterMap.1 hevent
  cases question with
  | tell event' =>
      obtain rfl := Option.some.inj htold
      rw [h _ hmem]
      exact Bool.false_ne_true
  | _ => cases htold

/-- Whatever the answers are, an operation tells nothing of forks and leaves those that are remembered as
    they are, and its value satisfies an assertion. -/
def Leaves {α : Type} (forks : Forks) (achieved : α → Prop) (act : Act α) : Prop :=
  (act.run forks).Always TellsNoNews fun ended => achieved ended.1 ∧ ended.2 = forks

theorem leaves_pure {α : Type} (value : α) : Leaves forks (fun _ => True) (pure value : Act α) :=
  ⟨trivial, rfl⟩

theorem leaves_push (owner name directory branch : String) :
    Leaves forks (fun _ => True) (dryRun.push owner name directory branch) :=
  ⟨by simp [TellsNoNews, isForkNews, List.isPrefixOf, toString], fun _ => ⟨trivial, rfl⟩⟩

theorem leaves_createPullRequest (owner name base head title body : String) :
    Leaves forks (fun _ => True) (dryRun.createPullRequest owner name base head title body) :=
  ⟨by simp [TellsNoNews, isForkNews, List.isPrefixOf],
    fun _ => ⟨trivial, fun _ => ⟨trivial, rfl⟩⟩⟩

theorem leaves_comment (owner name : String) (number : UInt64) (body : String) :
    Leaves forks (fun _ => True) (dryRun.comment owner name number body) :=
  ⟨by simp [TellsNoNews, isForkNews, List.isPrefixOf],
    fun _ => ⟨trivial, rfl⟩⟩

theorem leaves_repositoryExists {client : Git.Client} {forked : List String} {owner name : String}
    (howner : '/' ∉ owner.toList) (hname : '/' ∉ name.toList)
    (hforks : ∀ name, name ∈ forks ↔ name ∈ forked) :
    Leaves forks (fun present => present = true ↔ IsThere repositories forked owner name)
      ((registered client repositories).repositoryExists owner name) := by
  unfold Leaves repositoryExists IsThere
  by_cases hown : owner = dryRunLogin
  · rw [if_pos hown, if_pos hown]
    exact ⟨List.contains_iff_mem.trans (hforks name), rfl⟩
  · rw [if_neg hown, if_neg hown]
    exact ⟨List.contains_iff_mem.trans (mem_known_registered howner hname client repositories), rfl⟩

/-! ## One operation -/

variable {client : Git.Client} {forked : List String}

/-- The forks that are remembered are those of the given names. -/
def Remembers (repositories : List (String × String)) (client : Git.Client) (forked : List String)
    (backend : Backend) : Prop :=
  ∃ forks, backend = .dryRun (registered client repositories) forks ∧
    ∀ name, name ∈ forks ↔ name ∈ forked

/-- An operation that leaves the forks as they are. -/
theorem accords_of_leaves {task : Task} {onLive : Live → Live.Act task.Result}
    {onDryRun : DryRun → Act task.Result} {achieved : task.Result → Prop}
    {ended : Except Failure task.Result × Backend}
    (h : ((Backend.dispatch onLive onDryRun).run.run
      (.dryRun (registered client repositories) forks)).Leads said ended)
    (hforks : ∀ name, name ∈ forks ↔ name ∈ forked)
    (hnews : news forked task = []) (hnames : forkNames [task] = [])
    (hleaves : Leaves forks achieved (onDryRun (registered client repositories)))
    (hgives : ∀ value, achieved value → Gives repositories forked task (.ok value)) :
    Accords repositories forked task said ended.1 ∧
      Remembers repositories client (forked ++ forkNames [task]) ended.2 := by
  obtain ⟨value, after, rfl, hrun⟩ := Backend.leads_dispatch_dryRun h
  obtain ⟨hquiet, hachieved, rfl⟩ := hleaves.leads hrun
  refine ⟨⟨hgives value hachieved, ?_⟩, _, rfl, ?_⟩
  · rw [filter_told_eq_nil hquiet, hnews]
  · rw [hnames, List.append_nil]
    exact hforks

/-- A fork. -/
theorem accords_fork {owner name : String} {ended : Except Failure Unit × Backend}
    (h : ((Backend.fork owner name).run.run
      (.dryRun (registered client repositories) forks)).Leads said ended)
    (hforks : ∀ name, name ∈ forks ↔ name ∈ forked) :
    Accords repositories forked (.fork owner name) said ended.1 ∧
      Remembers repositories client (forked ++ forkNames [.fork owner name]) ended.2 := by
  obtain ⟨value, after, rfl, hrun⟩ := Backend.leads_dispatch_dryRun h
  simp only [DryRun.run_fork, Dialogue.leads_ask_iff, Dialogue.leads_done_iff] at hrun
  obtain ⟨_, _, rfl, _, _, rfl, rfl, hvalue⟩ := hrun
  obtain ⟨rfl, rfl⟩ := Prod.mk.inj hvalue
  refine ⟨⟨⟨_, rfl⟩, ?_⟩, _, rfl, fun text => ?_⟩
  · by_cases hknown : name ∈ forked
    · simp [told, news, hforks name, hknown, isForkNews_existing, isForkNews_syncing]
    · simp [told, news, hforks name, hknown, isForkNews_creating, isForkNews_syncing]
  · rw [mem_remember, hforks text, List.mem_append]
    exact or_comm.trans (or_congr_right List.mem_singleton.symm)

/-- Every operation. -/
theorem accords_run {task : Task} {ended : Except Failure task.Result × Backend}
    (h : (task.run.run.run (.dryRun (registered client repositories) forks)).Leads said ended)
    (hcovered : IsCovered task) (hforks : ∀ name, name ∈ forks ↔ name ∈ forked) :
    Accords repositories forked task said ended.1 ∧
      Remembers repositories client (forked ++ forkNames [task]) ended.2 := by
  cases task with
  | login | requestsLeft | originUrl _ _ =>
      exact accords_of_leaves h hforks rfl rfl (leaves_pure _) fun value _ => ⟨value, rfl⟩
  | push owner name directory branch =>
      exact accords_of_leaves h hforks rfl rfl (leaves_push owner name directory branch)
        fun value _ => ⟨value, rfl⟩
  | createPullRequest owner name base head title body =>
      exact accords_of_leaves h hforks rfl rfl
        (leaves_createPullRequest owner name base head title body) fun value _ => ⟨value, rfl⟩
  | comment owner name number body =>
      exact accords_of_leaves h hforks rfl rfl (leaves_comment owner name number body)
        fun value _ => ⟨value, rfl⟩
  | repositoryExists owner name =>
      exact accords_of_leaves h hforks rfl rfl
        (leaves_repositoryExists hcovered.1 hcovered.2 hforks)
        fun present hpresent => ⟨present, rfl, hpresent⟩
  | fork owner name => exact accords_fork h hforks
  | prepare => exact hcovered.elim

/-! ## Sequences of operations -/

/-- What accords with the operations before it, at every place of a sequence that starts after some
    operations. -/
theorem accords_reports (host : Oracle Host.Answer) {tasks : List Task}
    (hcovered : ∀ task ∈ tasks, IsCovered task) {asked : List Task} {backend : Backend}
    {past : List (Exchange Host.Answer)}
    (hremembers : Remembers repositories client (forkNames asked) backend)
    {earlier later : List Report} {report : Report}
    (hsplit : Backend.reports host past backend tasks = earlier ++ report :: later) :
    Accords repositories (forkNames (asked ++ earlier.map Report.task)) report.task report.said
      report.result := by
  -- the induction carries the operations asked for so far, of which only the names of forks matter
  induction tasks generalizing asked backend past earlier with
  | nil => simp [Backend.reports] at hsplit
  | cons task rest ih =>
      obtain ⟨forks, rfl, hforks⟩ := hremembers
      obtain ⟨haccords, hremembers⟩ := accords_run
        (Dialogue.leads_transcript host past
          (task.run.run.run (.dryRun (registered client repositories) forks)))
        (hcovered task List.mem_cons_self) hforks
      rcases List.cons_eq_append_iff.1 hsplit with ⟨rfl, hhead⟩ | ⟨earlier, rfl, hrest⟩
      · obtain ⟨rfl, rfl⟩ := List.cons.inj hhead
        rw [List.map_nil, List.append_nil]
        exact haccords
      · rw [← forkNames_append] at hremembers
        have hlater := ih (fun task hmem => hcovered task (List.mem_cons_of_mem _ hmem)) hremembers hrest
        rwa [List.append_assoc] at hlater

theorem task_reports (host : Oracle Host.Answer) (past : List (Exchange Host.Answer))
    (backend : Backend) (tasks : List Task) :
    (Backend.reports host past backend tasks).map Report.task = tasks := by
  induction tasks generalizing past backend with
  | nil => rfl
  | cons task rest ih => rw [Backend.reports, List.map_cons, ih]

/-- **The course of a dry run.** A dry run with further repositories registered is asked for whatever
    operations on the platform, one after the other. Every one of them gives a value. A repository of the
    dry run's own account is said to be there if and only if an earlier operation was a fork of its name,
    whoever owns the parent; a repository of another owner, if and only if it is known or was registered,
    whatever the operations before. A fork is told to be made exactly if no earlier operation was a fork of
    its name, and to be brought up to date always; no other operation tells any of this. -/
theorem course_of_dryRun (client : Git.Client) (repositories : List (String × String))
    (host : Oracle Host.Answer) (past : List (Exchange Host.Answer)) (tasks : List Task)
    (hcovered : ∀ task ∈ tasks, IsCovered task) :
    let course := Backend.reports host past (.dryRun (registered client repositories) []) tasks
    course.map Report.task = tasks ∧
      ∀ earlier report later, course = earlier ++ report :: later →
        let forked := forkNames (earlier.map Report.task)
        Gives repositories forked report.task report.result ∧
          (told report.said).filter isForkNews = news forked report.task := by
  refine ⟨task_reports host past _ tasks, fun earlier report later hsplit => ?_⟩
  have hremembers : Remembers repositories client (forkNames [])
      (.dryRun (registered client repositories) []) :=
    ⟨[], rfl, fun _ => Iff.rfl⟩
  have haccords := accords_reports host hcovered hremembers hsplit
  exact ⟨haccords.gives, haccords.news⟩

/-- Repositories of one name are forked one after the other, with looks in between. -/
def twoParents : List Task := [
  .repositoryExists dryRunLogin "polars-feedstock",
  .fork "conda-forge" "polars-feedstock",
  .repositoryExists dryRunLogin "polars-feedstock",
  .fork "jdoe" "polars-feedstock",
  .repositoryExists "jdoe" "polars-feedstock",
  .repositoryExists "conda-forge" "pandas-feedstock",
  .createPullRequest "jdoe" "polars-feedstock" "main" "patch-1" "Title" "Body"]

theorem course_of_twoParents :
    let host := fun (_ : List (Exchange Host.Answer)) question => nothingThere question
    let repositories := [("jdoe", "polars-feedstock")]
    let course := Backend.reports host [] (.dryRun (registered {} repositories) []) twoParents
    (∀ task ∈ twoParents, IsCovered task) ∧ course.map Report.task = twoParents ∧
      ∀ earlier report later, course = earlier ++ report :: later →
        let forked := forkNames (earlier.map Report.task)
        Gives repositories forked report.task report.result ∧
          (told report.said).filter isForkNews = news forked report.task := by
  have hcovered : ∀ task ∈ twoParents, IsCovered task := by decide +kernel
  exact ⟨hcovered, course_of_dryRun {} [("jdoe", "polars-feedstock")] _ [] twoParents hcovered⟩

end PullRequestBot.DryRun
