import PullRequestBot.Proofs.Git.Checkout

set_option autoImplicit false

/-! # What repository operations do to a workspace

A workspace is a directory with the checkout in it, the remotes configured there, and whether it holds
anything at all. `Allows` is the contract of the repository operations on it: what `Checkout.Allows`
says about the checkout, what becomes of everything around it, and which operations have to succeed. -/

namespace PullRequestBot.Git

open Dialogue (Exchange Oracle)

/-- A directory that runs work in. -/
structure Workspace (Commit : Type) where
  checkout : Checkout Commit
  /-- The addresses of the configured remotes, by name. -/
  remotes : String → Option String
  /-- Whether the directory holds anything. -/
  occupied : Bool

namespace Workspace

variable {Commit : Type}

/-! ## The contract -/

/-- What becomes of a workspace apart from what the contract of its checkout says. -/
def Effect (before : Workspace Commit) (said : Exchange Repository.Answer)
    (after : Workspace Commit) : Prop :=
  match said with
  -- a successful clone leaves a directory that holds something; it may bring remotes along
  | ⟨.clone _ _, .ok _⟩ => after.occupied = true
  | ⟨.addRemote _ name url, .ok _⟩ =>
    after.occupied = before.occupied ∧
      after.remotes = fun other => if other = name then some url else before.remotes other
  -- fetching changes nothing but what is tracked
  | ⟨.fetchAll _, .ok _⟩ =>
    after = { before with
      checkout := { before.checkout with tracking := after.checkout.tracking } }
  -- a branch that is there is only entered; afterwards it is there in any case
  | ⟨.checkout _ branch false, .ok _⟩ =>
    after = { before with checkout := after.checkout } ∧
      (before.checkout.branches branch ≠ none → after.checkout = before.checkout.enter branch) ∧
      after.checkout.branches branch ≠ none
  | _ => after = { before with checkout := after.checkout }

/-- The answers that an operation has to give. -/
def Obliges (names : Checkout Commit → String → Option Commit) (before : Workspace Commit) :
    Exchange Repository.Answer → Prop
  -- what is in the way is reported, and nothing else is reported so
  | ⟨.clone _ _, answer⟩ =>
    before.occupied = true ↔ ∃ path, answer = .error (.git (.targetNotEmpty path))
  | ⟨.addRemote _ name _, answer⟩ =>
    before.remotes name ≠ none ↔ ∃ reported, answer = .error (.git (.remoteExists reported))
  -- a reset to an existing commit and a checkout of an existing branch succeed
  | ⟨.hardReset _ target, answer⟩ => names before.checkout target ≠ none → answer = .ok ()
  | ⟨.checkout _ branch false, answer⟩ => before.checkout.branches branch ≠ none → answer = .ok ()
  | _ => True

/-- The contract of the repository operations on a workspace. -/
structure Allows (names : Checkout Commit → String → Option Commit) (before : Workspace Commit)
    (said : Exchange Repository.Answer) (after : Workspace Commit) : Prop where
  checkout : Checkout.Allows names before.checkout said after.checkout
  effect : Effect before said after
  obliges : Obliges names before said

/-- A repository keeps a workspace: the workspace after each answer is one that the contract allows.
    The branches of the parent are named by the references that track them, and HEAD names the branch
    that is checked out. -/
structure KeptBy (names : Checkout Commit → String → Option Commit)
    (workspaceAfter : List (Exchange Repository.Answer) → Workspace Commit)
    (repository : Oracle Repository.Answer) : Prop where
  parent_named : ∀ (checkout : Checkout Commit) (branch : String),
    names checkout (parentBranch branch) = checkout.tracking (parentBranch branch)
  head_named : ∀ (checkout : Checkout Commit) (branch : String),
    checkout.current = some branch → names checkout "HEAD" = checkout.branches branch
  allows : ∀ (past : List (Exchange Repository.Answer)) (question : Repository.Question),
    Allows names (workspaceAfter past) ⟨question, repository past question⟩
      (workspaceAfter (past ++ [⟨question, repository past question⟩]))

variable {names : Checkout Commit → String → Option Commit} {before after : Workspace Commit}

/-- Where the checkout does not change and nothing around it either, the workspace is as it was. -/
theorem eq_of_checkout (h : after = { before with checkout := after.checkout })
    (hcheckout : after.checkout = before.checkout) : after = before := by
  rw [h, hcheckout]

/-- Only a clone can change whether the directory holds something, and no operation but a clone takes a
    remote away. -/
theorem Effect.around {said : Exchange Repository.Answer} (h : Effect before said after)
    (hclone : ∀ url directory, said.question ≠ .clone url directory) :
    after.occupied = before.occupied ∧
      ∀ name, before.remotes name ≠ none → after.remotes name ≠ none := by
  have hrest : ∀ checkout : Checkout Commit, after = { before with checkout := checkout } →
      after.occupied = before.occupied ∧
        ∀ name, before.remotes name ≠ none → after.remotes name ≠ none := by
    rintro checkout rfl
    exact ⟨rfl, fun _ => id⟩
  obtain ⟨question, answer⟩ := said
  cases question with
  | clone url directory => exact absurd rfl (hclone url directory)
  | addRemote _ name url =>
      cases answer with
      | error _ => exact hrest _ h
      | ok _ =>
          refine ⟨h.1, fun other hother => ?_⟩
          rw [h.2]
          by_cases hname : other = name <;> simp [hname, hother]
  | checkout _ _ track =>
      cases track with
      | true => exact hrest _ h
      | false =>
          cases answer with
          | error _ => exact hrest _ h
          | ok _ => exact hrest _ h.1
  | fetchAll _ | hardReset _ _ | checkoutNew _ _ _ =>
      cases answer with
      | ok _ | error _ => exact hrest _ h
  | tell _ | refExists _ _ => exact hrest _ h

end Workspace

/-! ## A repository without failures of its own -/

namespace Checkout

variable {Commit : Type}

/-- The commit that a text names: HEAD is the branch that is checked out. -/
def resolve (checkout : Checkout Commit) (text : String) : Option Commit :=
  if text = "HEAD" then checkout.current.bind checkout.branches else checkout.named text

/-- The checkout with the branch that is checked out at a commit. -/
def resetTo (checkout : Checkout Commit) (commit : Commit) : Checkout Commit :=
  match checkout.current with
  | some branch => checkout.put branch commit
  | none => checkout

/-- A reset to what HEAD names changes nothing. -/
theorem resetTo_head {checkout : Checkout Commit} {commit : Commit}
    (h : checkout.resolve "HEAD" = some commit) : checkout.resetTo commit = checkout := by
  rw [resetTo]
  cases hcurrent : checkout.current with
  | none => rfl
  | some branch =>
      rw [resolve, if_pos rfl, hcurrent] at h
      exact put_of_branches h

end Checkout

namespace Workspace

variable {Commit : Type}

/-- Answers a question about a workspace, and says what becomes of it. A clone brings the branches of the
    origin, a fetch the branches that the parent has published; branches are not made by tracking. -/
def simulate (origin : Checkout Commit) (published : String → Option Commit)
    (workspace : Workspace Commit) :
    (question : Repository.Question) → Repository.Answer question × Workspace Commit
  | .tell _ => ((), workspace)
  | .refExists _ reference => (workspace.checkout.hasRef reference, workspace)
  | .clone _ directory =>
    if workspace.occupied then (.error (.git (.targetNotEmpty directory)), workspace)
    else
      let branches := fun name => (workspace.checkout.branches name).or (origin.branches name)
      (.ok (), { workspace with checkout := { origin with branches := branches }, occupied := true })
  | .addRemote _ name url =>
    match workspace.remotes name with
    | some _ => (.error (.git (.remoteExists name)), workspace)
    | none =>
      let remotes := fun other => if other = name then some url else workspace.remotes other
      (.ok (), { workspace with remotes := remotes })
  | .fetchAll _ =>
    let tracking := fun name => (published name).or (workspace.checkout.tracking name)
    (.ok (), { workspace with checkout := { workspace.checkout with tracking := tracking } })
  | .hardReset _ target =>
    match workspace.checkout.resolve target with
    | some commit => (.ok (), { workspace with checkout := workspace.checkout.resetTo commit })
    | none => (.error (.git (.commandFailed "git reset" (some 128))), workspace)
  | .checkout _ branch false =>
    match workspace.checkout.branches branch with
    | some _ => (.ok (), { workspace with checkout := workspace.checkout.enter branch })
    | none => (.error (.git (.branchNotFound branch)), workspace)
  | .checkout _ remoteBranch true => (.error (.git (.trackingRefMissing remoteBranch)), workspace)
  | .checkoutNew _ branch start =>
    match workspace.checkout.branches branch, workspace.checkout.resolve start with
    | none, some commit =>
      (.ok (), { workspace with checkout := (workspace.checkout.put branch commit).enter branch })
    | _, _ => (.error (.git (.commandFailed "git checkout" (some 128))), workspace)

variable (origin : Checkout Commit) (published : String → Option Commit)

/-- The simulated operations follow the contract. -/
theorem allows_simulate (workspace : Workspace Commit) (question : Repository.Question) :
    Allows Checkout.resolve workspace ⟨question, (workspace.simulate origin published question).1⟩
      (workspace.simulate origin published question).2 := by
  cases question with
  | tell _ => exact ⟨rfl, rfl, trivial⟩
  | refExists directory reference =>
      exact ⟨Checkout.allows_simulate workspace.checkout (.refExists directory reference), rfl, trivial⟩
  | clone _ directory =>
      cases hoccupied : workspace.occupied with
      | true =>
          simp only [simulate, hoccupied, if_true]
          exact ⟨rfl, rfl, iff_of_true hoccupied ⟨directory, rfl⟩⟩
      | false =>
          simp only [simulate, hoccupied, Bool.false_eq_true, if_false]
          refine ⟨fun branch commit hbranch => ?_, rfl, iff_of_false (by simp [hoccupied]) nofun⟩
          simp [hbranch]
  | addRemote _ name url =>
      cases hremote : workspace.remotes name with
      | some _ =>
          simp only [simulate, hremote]
          exact ⟨rfl, rfl, iff_of_true (by simp [hremote]) ⟨name, rfl⟩⟩
      | none =>
          simp only [simulate, hremote]
          exact ⟨⟨Checkout.Stays.refl _, rfl⟩, ⟨rfl, rfl⟩, iff_of_false (by simp [hremote]) nofun⟩
  | fetchAll _ => exact ⟨Checkout.Stays.refl _, rfl, trivial⟩
  | hardReset _ target =>
      cases hcommit : workspace.checkout.resolve target with
      | none =>
          simp only [simulate, hcommit]
          exact ⟨rfl, rfl, fun h => absurd hcommit h⟩
      | some commit =>
          simp only [simulate, hcommit]
          refine ⟨?_, rfl, fun _ => rfl⟩
          simp only [Checkout.Allows, Checkout.resetTo]
          cases hcurrent : workspace.checkout.current with
          | none => rfl
          | some branch =>
              by_cases hhead : target = "HEAD"
              · subst hhead
                simp only [if_true]
                have hsame := Checkout.resetTo_head hcommit
                simpa only [Checkout.resetTo, hcurrent] using hsame
              · simp only [if_neg hhead]
                exact ⟨commit, hcommit, rfl⟩
  | checkout directory branch track =>
      cases track with
      | true => exact ⟨rfl, rfl, trivial⟩
      | false =>
          cases hbranch : workspace.checkout.branches branch with
          | none =>
              simp only [simulate, hbranch]
              exact ⟨⟨rfl, fun _ _ => hbranch⟩, rfl, fun h => absurd hbranch h⟩
          | some commit =>
              simp only [simulate, hbranch]
              refine ⟨⟨Checkout.Stays.refl _, rfl, rfl⟩, ⟨rfl, fun _ => rfl, ?_⟩, fun _ => rfl⟩
              simp [hbranch]
  | checkoutNew _ branch start =>
      cases hbranch : workspace.checkout.branches branch with
      | some _ =>
          simp only [simulate, hbranch]
          exact ⟨rfl, rfl, trivial⟩
      | none =>
          cases hstart : workspace.checkout.resolve start with
          | none =>
              simp only [simulate, hbranch, hstart]
              exact ⟨rfl, rfl, trivial⟩
          | some commit =>
              simp only [simulate, hbranch, hstart]
              exact ⟨⟨hbranch, commit, hstart, rfl⟩, rfl, trivial⟩

/-- The simulated repository keeps the workspace that it starts with. -/
theorem keptBy_simulated (start : Workspace Commit) :
    KeptBy Checkout.resolve (Dialogue.simulatedAfter (simulate origin published) start)
      (Dialogue.simulated (simulate origin published) start) where
  parent_named checkout branch := by
    rw [Checkout.resolve, if_neg (parentBranch_ne_head branch)]
    exact Checkout.named_parentBranch checkout branch
  head_named checkout branch hcurrent := by
    rw [Checkout.resolve, if_pos rfl, hcurrent]
    rfl
  allows := Dialogue.allows_simulated _ start (allows_simulate origin published)

end Workspace

end PullRequestBot.Git
