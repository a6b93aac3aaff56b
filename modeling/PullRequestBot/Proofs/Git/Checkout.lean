import PullRequestBot.Git.Branching
import PullRequestBot.Proofs.Dialogue.Stateful

set_option autoImplicit false

/-! # What repository operations do to a checkout

A checkout has local branches, references that track the branches of remotes, and a branch that is
checked out. `Allows` is the contract of the repository operations: what each may do to a checkout,
depending on its answer. It does not say when an operation fails. -/

namespace PullRequestBot.Git

open Dialogue (Exchange Oracle)

/-- A branch of the parent repository, as its remote names it. -/
def parentBranch (branch : String) : String :=
  s!"{parentRemote}/{branch}"

theorem parentBranch_ne_head (branch : String) : parentBranch branch ≠ "HEAD" := by
  intro h
  have hfirst : ("upstream/" ++ branch).toList[0]? = "HEAD".toList[0]? :=
    congrArg (fun name => name.toList[0]?) h
  rw [String.toList_append] at hfirst
  exact absurd hfirst (show some 'u' ≠ some 'H' by decide)

/-- A checkout: where its branches and the tracked branches of remotes are, and which branch is checked
    out, if any. -/
structure Checkout (Commit : Type) where
  branches : String → Option Commit
  tracking : String → Option Commit
  current : Option String

namespace Checkout

variable {Commit : Type}

/-- The checkout with a branch put at a commit. -/
def put (checkout : Checkout Commit) (branch : String) (commit : Commit) : Checkout Commit :=
  { checkout with
    branches := fun name => if name = branch then some commit else checkout.branches name }

/-- The checkout with a branch checked out. -/
def enter (checkout : Checkout Commit) (branch : String) : Checkout Commit :=
  { checkout with current := some branch }

@[simp] theorem put_branches_self (checkout : Checkout Commit) (branch : String) (commit : Commit) :
    (checkout.put branch commit).branches branch = some commit :=
  if_pos rfl

theorem put_branches_of_ne (checkout : Checkout Commit) {branch name : String} (commit : Commit)
    (h : name ≠ branch) : (checkout.put branch commit).branches name = checkout.branches name :=
  if_neg h

@[simp] theorem enter_branches (checkout : Checkout Commit) (branch : String) :
    (checkout.enter branch).branches = checkout.branches := rfl

/-- Putting a branch where it is changes nothing. -/
theorem put_of_branches {checkout : Checkout Commit} {branch : String} {commit : Commit}
    (h : checkout.branches branch = some commit) : checkout.put branch commit = checkout := by
  have hbranches : (checkout.put branch commit).branches = checkout.branches := by
    funext name
    by_cases hname : name = branch
    · rw [hname, put_branches_self, h]
    · exact put_branches_of_ne checkout commit hname
  calc checkout.put branch commit
      = { checkout with branches := (checkout.put branch commit).branches } := rfl
    _ = checkout := by rw [hbranches]

/-- Entering the branch that is checked out changes nothing. -/
theorem enter_of_current {checkout : Checkout Commit} {branch : String}
    (h : checkout.current = some branch) : checkout.enter branch = checkout := by
  rw [enter, ← h]

/-- Branches that are there stay where they are. -/
def Stays (before after : Checkout Commit) : Prop :=
  ∀ branch commit, before.branches branch = some commit → after.branches branch = some commit

theorem Stays.refl (checkout : Checkout Commit) : checkout.Stays checkout :=
  fun _ _ h => h

theorem Stays.trans {first second third : Checkout Commit} (h : first.Stays second)
    (h' : second.Stays third) : first.Stays third :=
  fun branch commit hfirst => h' branch commit (h branch commit hfirst)

/-- Making a branch that is not there moves none. -/
theorem stays_put {checkout : Checkout Commit} {branch : String} (commit : Commit)
    (h : checkout.branches branch = none) : checkout.Stays (checkout.put branch commit) := by
  intro name commit' hname
  have hne : name ≠ branch := by
    rintro rfl
    rw [h] at hname
    exact absurd hname nofun
  rw [put_branches_of_ne checkout commit hne]
  exact hname

/-- The contract of the repository operations: what may become of a checkout when a question is
    answered. `names` says which commit a text stands for in a checkout. -/
def Allows (names : Checkout Commit → String → Option Commit) (before : Checkout Commit)
    (said : Exchange Repository.Answer) (after : Checkout Commit) : Prop :=
  match said with
  | ⟨.tell _, _⟩ => after = before
  -- a lookup tells the truth
  | ⟨.refExists _ reference, found⟩ =>
    after = before ∧
      (∀ branch, reference = localBranchRef branch →
        (found = true ↔ ∃ commit, before.branches branch = some commit)) ∧
      ∀ name, reference = trackingRef name →
        (found = true ↔ ∃ commit, before.tracking name = some commit)
  -- cloning and fetching may change what is tracked, but move no branch
  | ⟨.clone _ _, .ok _⟩ | ⟨.fetchAll _, .ok _⟩ => before.Stays after
  | ⟨.addRemote _ _ _, .ok _⟩ => before.Stays after ∧ after.tracking = before.tracking
  -- a reset moves the present branch only, and none if it is to HEAD
  | ⟨.hardReset _ target, .ok _⟩ =>
    match before.current with
    | some branch =>
      if target = "HEAD" then after = before
      else ∃ commit, names before target = some commit ∧ after = before.put branch commit
    | none => after = before
  | ⟨.checkout _ branch false, .ok _⟩ =>
    before.Stays after ∧ after.tracking = before.tracking ∧ after.current = some branch
  -- with tracking, a branch of the parent becomes a new branch of the checkout
  | ⟨.checkout _ remoteBranch true, .ok _⟩ =>
    ∀ branch, remoteBranch = parentBranch branch → before.branches branch = none ∧
      ∃ commit, before.tracking remoteBranch = some commit ∧
        after = (before.put branch commit).enter branch
  | ⟨.checkoutNew _ branch start, .ok _⟩ =>
    before.branches branch = none ∧
      ∃ commit, names before start = some commit ∧ after = (before.put branch commit).enter branch
  -- what fails changes nothing, and a branch is reported missing only if it is
  | ⟨.checkout _ branch false, .error failure⟩ =>
    after = before ∧ ∀ name, failure = .git (.branchNotFound name) → before.branches branch = none
  | ⟨.clone _ _, .error _⟩ | ⟨.fetchAll _, .error _⟩ | ⟨.addRemote _ _ _, .error _⟩
  | ⟨.hardReset _ _, .error _⟩ | ⟨.checkout _ _ true, .error _⟩ | ⟨.checkoutNew _ _ _, .error _⟩ =>
    after = before

variable {names : Checkout Commit → String → Option Commit} {before after : Checkout Commit}

theorem Allows.hardReset_head {directory : String}
    (h : Allows names before ⟨.hardReset directory "HEAD", .ok ()⟩ after) : after = before := by
  unfold Allows at h
  simp only [if_true] at h
  split at h
  · exact h
  · exact h

/-- A reset to anything but HEAD moves the branch that is checked out. -/
theorem Allows.hardReset {directory target branch : String}
    (h : Allows names before ⟨.hardReset directory target, .ok ()⟩ after) (htarget : target ≠ "HEAD")
    (hcurrent : before.current = some branch) :
    ∃ commit, names before target = some commit ∧ after = before.put branch commit := by
  unfold Allows at h
  simp only [hcurrent, if_neg htarget] at h
  exact h

/-- A repository keeps a checkout: the checkout after each answer is one that the contract allows, and
    the branches of the parent are named by the references that track them. -/
structure KeptBy (names : Checkout Commit → String → Option Commit)
    (checkoutAfter : List (Exchange Repository.Answer) → Checkout Commit)
    (repository : Oracle Repository.Answer) : Prop where
  parent_named : ∀ (checkout : Checkout Commit) (branch : String),
    names checkout (parentBranch branch) = checkout.tracking (parentBranch branch)
  allows : ∀ (past : List (Exchange Repository.Answer)) (question : Repository.Question),
    Allows names (checkoutAfter past) ⟨question, repository past question⟩
      (checkoutAfter (past ++ [⟨question, repository past question⟩]))

/-! ## A repository without failures of its own -/

/-- What starts with the name of the parent's remote is tracked, all else is a branch. -/
def named (checkout : Checkout Commit) (text : String) : Option Commit :=
  if "upstream/".toList.isPrefixOf text.toList then checkout.tracking text
  else checkout.branches text

/-- Whether a full reference name exists. -/
def hasRef (checkout : Checkout Commit) (reference : String) : Bool :=
  if "refs/heads/".toList.isPrefixOf reference.toList then
    (checkout.branches (String.ofList (reference.toList.drop 11))).isSome
  else (checkout.tracking (String.ofList (reference.toList.drop 13))).isSome

/-- Answers a question about a checkout that is there already, and says what becomes of it. Nothing is
    new on the remotes, and branches are not made by tracking. -/
def simulate (checkout : Checkout Commit) :
    (question : Repository.Question) → Repository.Answer question × Checkout Commit
  | .tell _ => ((), checkout)
  | .refExists _ reference => (checkout.hasRef reference, checkout)
  | .clone _ directory => (.error (.git (.targetNotEmpty directory)), checkout)
  | .fetchAll _ | .addRemote _ _ _ => (.ok (), checkout)
  | .hardReset _ target =>
    if target = "HEAD" then (.ok (), checkout)
    else
      match checkout.current, checkout.named target with
      | some branch, some commit => (.ok (), checkout.put branch commit)
      | _, _ => (.error (.git (.commandFailed "git reset" (some 128))), checkout)
  | .checkout _ branch false =>
    match checkout.branches branch with
    | some _ => (.ok (), checkout.enter branch)
    | none => (.error (.git (.branchNotFound branch)), checkout)
  | .checkout _ remoteBranch true => (.error (.git (.trackingRefMissing remoteBranch)), checkout)
  | .checkoutNew _ branch start =>
    match checkout.branches branch, checkout.named start with
    | none, some commit => (.ok (), (checkout.put branch commit).enter branch)
    | _, _ => (.error (.git (.commandFailed "git checkout" (some 128))), checkout)

theorem named_parentBranch (checkout : Checkout Commit) (branch : String) :
    checkout.named (parentBranch branch) = checkout.tracking (parentBranch branch) := by
  have hpre : "upstream/".toList.isPrefixOf (parentBranch branch).toList = true := by
    rw [List.isPrefixOf_iff_prefix]
    show "upstream/".toList <+: ("upstream/" ++ branch).toList
    rw [String.toList_append]
    exact List.prefix_append ..
  rw [named, if_pos hpre]

theorem hasRef_localBranchRef (checkout : Checkout Commit) (branch : String) :
    checkout.hasRef (localBranchRef branch) = (checkout.branches branch).isSome := by
  have hchars : (localBranchRef branch).toList = "refs/heads/".toList ++ branch.toList :=
    String.toList_append
  have hname : (localBranchRef branch).toList.drop 11 = branch.toList := by
    rw [hchars]
    rfl
  rw [hasRef, if_pos (by rw [hchars]; rfl), hname, String.ofList_toList]

theorem hasRef_trackingRef (checkout : Checkout Commit) (name : String) :
    checkout.hasRef (trackingRef name) = (checkout.tracking name).isSome := by
  have hchars : (trackingRef name).toList = "refs/remotes/".toList ++ name.toList :=
    String.toList_append
  have hname : (trackingRef name).toList.drop 13 = name.toList := by
    rw [hchars]
    rfl
  rw [hasRef, if_neg (by rw [hchars]; exact Bool.false_ne_true), hname, String.ofList_toList]

/-- The simulated operations follow the contract. -/
theorem allows_simulate (checkout : Checkout Commit) (question : Repository.Question) :
    Allows named checkout ⟨question, (checkout.simulate question).1⟩
      (checkout.simulate question).2 := by
  cases question with
  | tell _ | clone _ _ => exact rfl
  | refExists _ reference =>
      refine ⟨rfl, ?_, ?_⟩
      · rintro branch rfl
        rw [← Option.isSome_iff_exists, ← hasRef_localBranchRef]
        exact Iff.rfl
      · rintro name rfl
        rw [← Option.isSome_iff_exists, ← hasRef_trackingRef]
        exact Iff.rfl
  | fetchAll _ => exact Stays.refl checkout
  | addRemote _ _ _ => exact ⟨Stays.refl checkout, rfl⟩
  | hardReset _ target =>
      by_cases hhead : target = "HEAD"
      · simp only [simulate, if_pos hhead]
        cases hcurrent : checkout.current with
        | none | some branch => simp only [Allows, hcurrent, if_pos hhead]
      · simp only [simulate, if_neg hhead]
        cases hcurrent : checkout.current with
        | none => exact rfl
        | some branch =>
            cases hcommit : checkout.named target with
            | none => exact rfl
            | some commit =>
                simp only [Allows, hcurrent, if_neg hhead]
                exact ⟨commit, hcommit, rfl⟩
  | checkout _ branch track =>
      cases track with
      | true => exact rfl
      | false =>
          cases hbranch : checkout.branches branch with
          | none =>
              simp only [simulate, hbranch]
              exact ⟨rfl, fun _ _ => hbranch⟩
          | some commit =>
              simp only [simulate, hbranch]
              exact ⟨Stays.refl checkout, rfl, rfl⟩
  | checkoutNew _ branch start =>
      cases hbranch : checkout.branches branch with
      | some _ =>
          simp only [simulate, hbranch]
          exact rfl
      | none =>
          cases hstart : checkout.named start with
          | none =>
              simp only [simulate, hbranch, hstart]
              exact rfl
          | some commit =>
              simp only [simulate, hbranch, hstart]
              exact ⟨hbranch, commit, hstart, rfl⟩

/-- The simulated repository keeps the checkout that it starts with. -/
theorem keptBy_simulated (start : Checkout Commit) :
    KeptBy named (Dialogue.simulatedAfter simulate start) (Dialogue.simulated simulate start) where
  parent_named := named_parentBranch
  allows := Dialogue.allows_simulated simulate start allows_simulate

end Checkout

end PullRequestBot.Git
