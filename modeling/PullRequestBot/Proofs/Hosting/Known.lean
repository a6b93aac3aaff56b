import PullRequestBot.Hosting.DryRun

set_option autoImplicit false

/-! # What a dry run knows and remembers

A dry run knows a repository by its owner and its name with a slash between them. Where neither holds a
slash, they can be told from that text (`repositoryText_eq_iff`), so what is known are the repositories
known from the start and exactly those that were registered (`mem_known_registered`). It remembers a fork
by its name alone, and tells of the fork when it does not remember the name yet (`run_fork`). -/

namespace PullRequestBot.DryRun

variable {forks : Forks} {owner name : String}

/-! ## Known repositories -/

/-- Owner and name can be told from the text of a repository, if they hold no slash. -/
theorem repositoryText_eq_iff (howner : '/' ∉ owner.toList) (hname : '/' ∉ name.toList)
    {otherOwner otherName : String} :
    s!"{owner}/{name}" = s!"{otherOwner}/{otherName}" ↔ owner = otherOwner ∧ name = otherName := by
  constructor
  · intro h
    have hchars : owner.toList ++ '/' :: name.toList = otherOwner.toList ++ '/' :: otherName.toList := by
      have htext := congrArg String.toList h
      simpa [toString] using htext
    -- there is one slash on the left, so the one on the right is the only one there
    have hother : '/' ∉ otherOwner.toList := by
      have hslashes := congrArg (List.count '/') hchars
      rw [List.count_append, List.count_append, List.count_cons_self, List.count_cons_self,
        List.count_eq_zero_of_not_mem howner, List.count_eq_zero_of_not_mem hname] at hslashes
      exact List.count_eq_zero.1 (by omega)
    have hcut := congrArg (Text.cut '/') hchars
    rw [Text.cut_append howner, Text.cut_append hother] at hcut
    obtain ⟨howners, hnames⟩ := Prod.mk.inj (Option.some.inj hcut)
    exact ⟨String.toList_inj.1 howners, String.toList_inj.1 hnames⟩
  · rintro ⟨rfl, rfl⟩
    rfl

/-- A new dry run in which further repositories are registered. -/
def registered (client : Git.Client) (repositories : List (String × String)) : DryRun :=
  repositories.foldl (fun dryRun repository => dryRun.withKnown repository.1 repository.2)
    { client := client }

theorem mem_known_foldl (howner : '/' ∉ owner.toList) (hname : '/' ∉ name.toList)
    (repositories : List (String × String)) (dryRun : DryRun) :
    s!"{owner}/{name}" ∈ (repositories.foldl
        (fun dryRun repository => dryRun.withKnown repository.1 repository.2) dryRun).known ↔
      s!"{owner}/{name}" ∈ dryRun.known ∨ (owner, name) ∈ repositories := by
  induction repositories generalizing dryRun with
  | nil => simp
  | cons repository rest ih =>
      obtain ⟨otherOwner, otherName⟩ := repository
      rw [List.foldl_cons, ih, withKnown, List.mem_cons, repositoryText_eq_iff howner hname,
        List.mem_cons, Prod.mk.injEq]
      exact or_assoc.trans or_left_comm

/-- What is known are the repositories known from the start and the registered ones. -/
theorem mem_known_registered (howner : '/' ∉ owner.toList) (hname : '/' ∉ name.toList)
    (client : Git.Client) (repositories : List (String × String)) :
    s!"{owner}/{name}" ∈ (registered client repositories).known ↔
      s!"{owner}/{name}" ∈ knownRepositories ∨ (owner, name) ∈ repositories :=
  mem_known_foldl howner hname repositories _

/-! ## Forks -/

/-- The forks that are remembered once one of the given name was asked for. -/
def remember (forks : Forks) (name : String) : Forks :=
  if forks.contains name then forks else name :: forks

theorem mem_remember {text : String} {name : String} :
    text ∈ remember forks name ↔ text = name ∨ text ∈ forks := by
  unfold remember
  split
  · next hknown =>
      refine ⟨Or.inr, ?_⟩
      rintro (rfl | hmem)
      · exact List.contains_iff_mem.1 hknown
      · exact hmem
  · exact List.mem_cons

/-- The event that a fork is made. -/
def creating (owner name : String) : Log.Event :=
  ⟨.info, .dryRun, s!"Dry Run: Creating fork of {owner}/{name} for user {dryRunLogin}", []⟩

/-- The event that a fork is there already. -/
def existing (name : String) : Log.Event :=
  ⟨.debug, .dryRun, s!"Fork of {name} already exists", []⟩

/-- The event that a fork is brought up to date. -/
def syncing (owner name : String) : Log.Event :=
  ⟨.info, .dryRun, s!"Dry Run: Syncing default branch of {owner}/{name}", []⟩

/-- A fork is told of, and remembered. -/
theorem run_fork (dryRun : DryRun) (forks : Forks) (owner name : String) :
    (dryRun.fork owner name).run forks =
      .ask (.tell (if forks.contains name then existing name else creating owner name)) fun _ =>
        .ask (.tell (syncing owner name)) fun _ => .done ((), remember forks name) := by
  unfold fork remember
  simp only [StateT.run_bind, StateT.run_get, pure_bind]
  by_cases hknown : forks.contains name = true
  · rw [if_pos hknown, if_pos hknown, if_pos hknown]
    rfl
  · rw [if_neg hknown, if_neg hknown, if_neg hknown]
    rfl

end PullRequestBot.DryRun
