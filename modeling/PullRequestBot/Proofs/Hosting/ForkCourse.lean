import PullRequestBot.Proofs.Hosting.Effect
import PullRequestBot.Proofs.Hosting.Fork

set_option autoImplicit false

/-! # The course of a fork

On a platform that keeps a store, what holds of the store at each stage of a fork can be told from the store
that the fork started with (`OnCourse`). One lemma says that a single call leads from one stage to the next
(`onCourse_step`); a whole walk through the script of a fork follows by induction (`Walk.keeps`). So forking
puts the fork into the store, with the default branch of the parent (`acts_fork`). -/

namespace PullRequestBot.Live

open Dialogue (Evolves Oracle)

variable {live : Live} {site : Site} {account owner name wanted : PlainText} {start before after : Store}
  {attempts : Nat}

/-! ## The calls of a fork -/

theorem wish_fork (owner name : PlainText) (body : Option Json) :
    Wish.read? .post ([PlainText.repos, owner, name, .forks].map Subtype.val) body =
      some (.fork owner name) := by
  show (do return Wish.fork (← PlainText.read? owner.val) (← PlainText.read? name.val)) = _
  rw [PlainText.read?_val, PlainText.read?_val]
  rfl

theorem wish_rename (owner name branch wanted : PlainText) :
    Wish.read? .post ([PlainText.repos, owner, name, .branches, branch, .rename].map Subtype.val)
      (some (.object [("new_name", .string wanted.val)])) = some (.rename owner name branch wanted) := by
  show (do
    return Wish.rename (← PlainText.read? owner.val) (← PlainText.read? name.val)
      (← PlainText.read? branch.val) (← PlainText.read? wanted.val)) = _
  simp only [PlainText.read?_val]
  rfl

theorem askForFork_eq (owner name : PlainText) :
    askForFork owner.val name.val = callAt .post [.repos, owner, name, .forks] none := by
  rw [askForFork, callAt, forksPath_eq]

theorem renameTo_eq (owner name wanted present : PlainText) :
    renameTo owner.val name.val wanted.val present.val =
      callAt .post [.repos, owner, name, .branches, present, .rename]
        (some (.object [("new_name", .string wanted.val)])) := by
  rw [renameTo, callAt, renamePath_eq]

/-- The paths that a fork asks for before it makes anything: those of the account, the fork and its
    parent. -/
def lookPaths (account owner name : PlainText) : List (List PlainText) :=
  [[.user], [.repos, account, name], [.repos, owner, name]]

/-- The paths that a fork asks for, where the fork has the given default branch. -/
def forkPaths (account owner name : PlainText) (present : Option PlainText) : List (List PlainText) :=
  lookPaths account owner name ++ [.repos, owner, name, .forks] ::
    (present.map fun branch => [.repos, account, name, .branches, branch, .rename]).toList

/-! ## What a call leads to -/

section

variable {method : Http.Method} {texts : List PlainText} {body : Option Json} {wish : Wish} {said : List Said}
  {reply : Reply} {next : Received → Except Failure (Option ForkStage)}
  {kept : Except Failure (Option ForkStage) → Store → Prop}

/-- A call leads to what is kept if every answer that grants it does, and if the fork may end where the call
    cannot be sent. -/
theorem Sent.keeps (hlive : live.IsAt site) (hne : texts ≠ [])
    (hwish : Wish.read? method (texts.map Subtype.val) body = some wish)
    (hsent : live.Sent (callAt method texts body) said reply)
    (hevolves : Evolves (Store.Allows site account) before said after)
    (hfailed : ¬ Fits site (PlainText.segments texts) →
      kept (.error (.platform (.request (tooLong site (PlainText.segments texts))))) before)
    (hgranted : ∀ received, Fits site (PlainText.segments texts) →
      Grants account before wish received.response after → kept (next received) after) :
    kept (judge next reply) after := by
  rcases hsent.granted hlive hne hwish hevolves with ⟨hfits, rfl, rfl⟩ | ⟨hfits, received, rfl, hgrants⟩
  · exact hfailed hfits
  · exact hgranted received hfits hgrants

/-- `Sent.keeps` for a look at a repository, which changes nothing. -/
theorem Sent.keeps_look (hlive : live.IsAt site) (hsent : live.Sent (lookAt owner.val name.val) said reply)
    (hevolves : Evolves (Store.Allows site account) before said after)
    (hfailed : ¬ Fits site (PlainText.segments [.repos, owner, name]) →
      kept (.error (.platform (.request (tooLong site (PlainText.segments [.repos, owner, name]))))) before)
    (hgranted : ∀ received, Fits site (PlainText.segments [.repos, owner, name]) →
      Grants account before (.repository owner name) received.response before →
      kept (next received) before) :
    kept (judge next reply) after := by
  rw [lookAt_eq] at hsent
  refine hsent.keeps hlive (List.cons_ne_nil _ _) (wish_lookAt owner name none) hevolves hfailed
    fun received hfits hgrants => ?_
  obtain rfl : after = before := hgrants.1
  exact hgranted received hfits hgrants

end

/-! ## The course of a fork -/

/-- Nothing but the fork was put into the store, and a fork that was there is as it was. -/
def HasFork (account name : PlainText) (start store : Store) : Prop :=
  ∃ present, store = start.put account name present ∧
    (start account name = none ∨ start account name = some present)

theorem hasFork_of_there {present : PlainText} (h : start account name = some present) :
    HasFork account name start start :=
  ⟨present, (Store.put_eq_self h).symm, Or.inr h⟩

theorem HasFork.there (h : HasFork account name start before) :
    ∃ present, before account name = some present := by
  obtain ⟨present, rfl, -⟩ := h
  exact ⟨present, Store.put_self⟩

/-- The parent of a fork keeps its default branch while the fork is made. -/
theorem HasFork.parent (h : HasFork account name start before) (hwanted : start owner name = some wanted) :
    before owner name = some wanted := by
  obtain ⟨present, rfl, hpresent⟩ := h
  -- an account that owns the repository forks it onto itself
  by_cases hself : owner = account
  · subst hself
    rcases hpresent with hnone | hsome
    · rw [hwanted] at hnone
      exact absurd hnone nofun
    · rw [Store.put_self, ← hsome, hwanted]
  · rw [Store.put_of_ne fun hsame => hself hsame.1, hwanted]

theorem HasFork.put (h : HasFork account name start before) (branch : PlainText) :
    before.put account name branch = start.put account name branch := by
  obtain ⟨present, rfl, -⟩ := h
  exact Store.put_put

/-- Two stores differ in nothing but the repository of the account. -/
def SameOthers (account name : PlainText) (first second : Store) : Prop :=
  ∀ owner' name', ¬ (owner' = account ∧ name' = name) → second owner' name' = first owner' name'

theorem HasFork.sameOthers (h : HasFork account name start before) :
    SameOthers account name start before := by
  obtain ⟨present, rfl, -⟩ := h
  exact fun _ _ hother => Store.put_of_ne hother

/-- The looks at the fork and at its parent can be sent. -/
structure LooksFit (site : Site) (account owner name : PlainText) : Prop where
  fork : Fits site (PlainText.segments [.repos, account, name])
  parent : Fits site (PlainText.segments [.repos, owner, name])

/-- What holds of the store where a fork has come to: it started with a store in which the parent has the
    wanted default branch. -/
def OnCourse (site : Site) (account owner name wanted : PlainText) (start : Store) :
    Except Failure (Option ForkStage) → Store → Prop
  | .ok (some .askLogin), store => store = start
  | .ok (some (.lookForFork login)), store => login = account.val ∧ store = start
  | .ok (some (.checkParent login)), store | .ok (some (.requestFork login)), store =>
    login = account.val ∧ store = start ∧ start account name = none
  | .ok (some (.awaitFork login _)), store | .ok (some (.readParent login)), store =>
    login = account.val ∧ HasFork account name start store
  | .ok (some (.readFork login branch)), store =>
    login = account.val ∧ branch = wanted.val ∧ HasFork account name start store ∧
      Fits site (PlainText.segments [.repos, owner, name])
  | .ok (some (.renameBranch login branch present)), store =>
    login = account.val ∧ branch = wanted.val ∧ HasFork account name start store ∧
      LooksFit site account owner name ∧ ∃ found, store account name = some found ∧ present = found.val
  | .ok none, store => store = start.put account name wanted ∧ LooksFit site account owner name
  | .error failure, store =>
    IsTooLongAmong site (forkPaths account owner name (store account name)) failure ∧
      SameOthers account name start store

theorem onCourse_looking {login : String} (left : Nat) (hlogin : login = account.val)
    (h : HasFork account name start before) :
    OnCourse site account owner name wanted start (.ok (some (.looking login left))) before := by
  cases left with
  | zero | succ _ => exact ⟨hlogin, h⟩

/-- **One call of a fork** leads from what holds at its stage to what holds at the next. -/
theorem onCourse_step (hlive : live.IsAt site) (hwanted : start owner name = some wanted)
    (stage : ForkStage) (said : List Said) (reply : Reply) (before after : Store)
    (h : OnCourse site account owner name wanted start (.ok (some stage)) before)
    (hsent : live.Sent ((forkScript attempts owner.val name.val).call stage) said reply)
    (hevolves : Evolves (Store.Allows site account) before said after) :
    OnCourse site account owner name wanted start
      (Turn.outcome (forkScript attempts owner.val name.val) ⟨stage, said, reply⟩) after := by
  have hsame : SameOthers account name start start := fun _ _ _ => rfl
  have hfailed {texts : List PlainText} (hmem : texts ∈ forkPaths account owner name (before account name))
      (hothers : SameOthers account name start before) (hfits : ¬ Fits site (PlainText.segments texts)) :
      OnCourse site account owner name wanted start
        (.error (.platform (.request (tooLong site (PlainText.segments texts))))) before :=
    ⟨⟨texts, hmem, hfits, rfl⟩, hothers⟩
  cases stage with
  | askLogin =>
      obtain rfl : before = start := h
      have hcall : live.Sent (callAt .get [.user] none) said reply := hsent
      refine hcall.keeps hlive (List.cons_ne_nil _ _) (wish_user none) hevolves
        (hfailed (by simp [forkPaths, lookPaths]) hsame) fun received _ hgrants => ?_
      obtain ⟨rfl, hlogin⟩ := loginIn_of_grants hgrants
      simp only [forkScript, hlogin]
      exact ⟨rfl, rfl⟩
  | lookForFork login =>
      obtain ⟨rfl, rfl⟩ := h
      refine Sent.keeps_look hlive hsent hevolves (hfailed (by simp [forkPaths, lookPaths]) hsame)
        fun received _ hgrants => ?_
      simp only [forkScript, (presence_of_grants hgrants).2]
      cases hthere : before account name with
      | none => exact ⟨rfl, rfl, hthere⟩
      | some present => exact ⟨rfl, hasFork_of_there hthere⟩
  | checkParent login =>
      obtain ⟨rfl, rfl, hnone⟩ := h
      refine Sent.keeps_look hlive hsent hevolves (hfailed (by simp [forkPaths, lookPaths]) hsame)
        fun received _ hgrants => ?_
      obtain ⟨value, hvalue⟩ := description_of_there hgrants hwanted
      simp only [forkScript, hvalue]
      exact ⟨rfl, rfl, hnone⟩
  | requestFork login =>
      obtain ⟨rfl, rfl, hnone⟩ := h
      have hcall : live.Sent (callAt .post [.repos, owner, name, .forks] none) said reply := by
        rw [← askForFork_eq]
        exact hsent
      refine hcall.keeps hlive (List.cons_ne_nil _ _) (wish_fork owner name none) hevolves
        (hfailed (by simp [forkPaths, lookPaths]) hsame) fun received _ hgrants => ?_
      -- the new fork has whatever default branch the platform chose
      obtain ⟨hsuccess, present, rfl⟩ := hgrants (by rw [hwanted]; nofun)
      simp only [forkScript, accepted, if_pos hsuccess]
      exact onCourse_looking attempts rfl ⟨present, rfl, Or.inl hnone⟩
  | awaitFork login left =>
      obtain ⟨rfl, hfork⟩ := h
      refine Sent.keeps_look hlive hsent hevolves
        (hfailed (by simp [forkPaths, lookPaths]) hfork.sameOthers) fun received _ hgrants => ?_
      obtain ⟨present, hthere⟩ := hfork.there
      simp only [forkScript, (presence_of_grants hgrants).2, hthere]
      exact ⟨rfl, hfork⟩
  | readParent login =>
      obtain ⟨rfl, hfork⟩ := h
      refine Sent.keeps_look hlive hsent hevolves
        (hfailed (by simp [forkPaths, lookPaths]) hfork.sameOthers) fun received hfits hgrants => ?_
      simp only [forkScript, branchIn_of_there hgrants (hfork.parent hwanted)]
      exact ⟨rfl, rfl, hfork, hfits⟩
  | readFork login branch =>
      obtain ⟨rfl, rfl, hfork, hparent⟩ := h
      refine Sent.keeps_look hlive hsent hevolves
        (hfailed (by simp [forkPaths, lookPaths]) hfork.sameOthers) fun received hfits hgrants => ?_
      obtain ⟨present, hthere⟩ := hfork.there
      simp only [forkScript, branchIn_of_there hgrants hthere, Except.map]
      split
      · next hsync =>
          -- in sync already: to put the fork in with the wanted branch would change nothing
          obtain rfl := Subtype.ext hsync
          exact ⟨(hfork.put wanted ▸ Store.put_eq_self hthere).symm, hfits, hparent⟩
      · exact ⟨rfl, rfl, hfork, ⟨hfits, hparent⟩, present, hthere, rfl⟩
  | renameBranch login branch present =>
      obtain ⟨rfl, rfl, hfork, hlooks, found, hfound, rfl⟩ := h
      have hcall : live.Sent (callAt .post [.repos, account, name, .branches, found, .rename]
          (some (.object [("new_name", .string wanted.val)]))) said reply := by
        rw [← renameTo_eq]
        exact hsent
      refine hcall.keeps hlive (List.cons_ne_nil _ _) (wish_rename account name found wanted) hevolves
        (hfailed (by simp [forkPaths, hfound]) hfork.sameOthers) fun received _ hgrants => ?_
      obtain ⟨hsuccess, rfl⟩ := hgrants hfound
      simp only [forkScript, accepted, if_pos hsuccess]
      exact ⟨hfork.put wanted, hlooks⟩

/-! ## What a fork does -/

/-- The paths that a fork asks for that leaves the given store. -/
def forkPathsIn (account owner name : PlainText) (store : Store) : List (List PlainText) :=
  forkPaths account owner name (store account name)

/-- In the end the fork is in the store, with the default branch of its parent. -/
theorem does_forkAs (hlive : live.IsAt site) (h : before owner name = some wanted) :
    Does site account (forkPathsIn account owner name) before
      (fun _ after => after = before.put account name wanted)
      (live.forkAs owner.val name.val account.val) := by
  refine does_of_leads fun said result after hleads hevolves => ?_
  obtain ⟨turns, hwalk, hsent⟩ := live.follows_forkAs owner.val name.val account.val said result hleads
  have hsaid := evolves_sent hevolves
  rw [hsent] at hsaid
  have hended := (hwalk.keeps (onCourse_step hlive h) ⟨rfl, rfl⟩ hsaid).1
  cases result with
  | ok _ | error _ => exact hended.1

/-- **Forking** puts the fork into the store, with the default branch of the parent. -/
theorem acts_fork (hlive : live.IsAt site) (h : before owner name = some wanted) :
    Acts site account (forkPathsIn account owner name) before
      (fun _ after => after = before.put account name wanted) (live.fork owner.val name.val) := by
  refine (acts_login hlive (by simp [forkPathsIn, forkPaths, lookPaths]) before).bind
    fun login after hlogin => ?_
  obtain ⟨rfl, rfl⟩ := hlogin
  exact (does_forkAs hlive h).acts

end PullRequestBot.Live
