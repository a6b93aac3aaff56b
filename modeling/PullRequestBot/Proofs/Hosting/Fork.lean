import PullRequestBot.Proofs.Hosting.Login
import PullRequestBot.Proofs.Hosting.Script
import PullRequestBot.Proofs.Result

set_option autoImplicit false

/-! # The calls of a fork

To fork a repository, the live backend asks for the login unless it knows it, looks for the fork, makes it
if it is not there, waits until it can be seen, compares the default branches and renames the fork's if
they differ. `forkScript` is the table of these stages. Whatever the platform answers, the backend walks
through this table and sends nothing else, stops at the first answer that does not pass, and succeeds
exactly when all answers pass (`follows_fork`). -/

namespace PullRequestBot.Live

open Dialogue (Oracle)
open Result (map_eq_ok)

variable {live : Live} {attempts : Nat} {owner name login : String}

/-! ## Stages -/

/-- The stages of a fork. -/
inductive ForkStage where
  | askLogin
  /-- Look whether the fork is there already. -/
  | lookForFork (login : String)
  /-- Look whether there is anything to fork. -/
  | checkParent (login : String)
  | requestFork (login : String)
  /-- Look for the new fork; so many looks are left after this one. -/
  | awaitFork (login : String) (left : Nat)
  | readParent (login : String)
  /-- Read the default branch of the fork, to compare it with the wanted one. -/
  | readFork (login wanted : String)
  | renameBranch (login wanted present : String)

/-- Where a fork stands while so many looks for it are left. -/
def ForkStage.looking (login : String) : Nat → ForkStage
  | 0 => .readParent login
  | left + 1 => .awaitFork login left

/-- The call that asks for a fork. -/
def askForFork (owner name : String) : Call :=
  ⟨.post, s!"{repositoryPath owner name}/forks", none⟩

/-- The call that renames a branch. -/
def renameTo (owner name wanted present : String) : Call :=
  ⟨.post, s!"{repositoryPath owner name}/branches/{present}/rename",
    some (.object [("new_name", .string wanted)])⟩

/-- The calls of a fork and what their responses lead to. -/
def forkScript (attempts : Nat) (owner name : String) : Script ForkStage where
  call
    | .askLogin => askUser
    | .lookForFork login | .awaitFork login _ | .readFork login _ => lookAt login name
    | .checkParent _ | .readParent _ => lookAt owner name
    | .requestFork _ => askForFork owner name
    | .renameBranch login wanted present => renameTo login name wanted present
  next
    | .askLogin, received => (loginIn received).map fun login => some (.lookForFork login)
    | .lookForFork login, received =>
      (presence login name received).map fun present =>
        some (if present then .readParent login else .checkParent login)
    | .checkParent login, received =>
      (description owner name received).map fun _ => some (.requestFork login)
    | .requestFork login, received =>
      (accepted "Could not create fork" s!"{owner}/{name}" received).map fun _ =>
        some (.looking login attempts)
    | .awaitFork login left, received =>
      (presence login name received).map fun present =>
        some (if present then .readParent login else .looking login left)
    | .readParent login, received =>
      (branchIn owner name received).map fun wanted => some (.readFork login wanted)
    | .readFork login wanted, received =>
      (branchIn login name received).map fun present =>
        if wanted = present then none else some (.renameBranch login wanted present)
    | .renameBranch login _ _, received =>
      (accepted "Could not sync default branch" s!"{login}/{name}" received).map fun _ => none

/-- Where a fork starts. -/
def forkStart : Login → ForkStage
  | none => .askLogin
  | some login => .lookForFork login

/-! ## The helpers follow the script -/

theorem follows_awaitFork (live : Live) (left attempt : Nat) :
    live.Follows (forkScript attempts owner name) (some (.looking login left))
      (fun _ => some (.readParent login)) (live.awaitFork login name left attempt) := by
  induction left generalizing attempt with
  | zero => exact follows_tell rfl
  | succ left ih =>
      have hlook : live.Follows (forkScript attempts owner name) (some (.awaitFork login left))
          (fun present => some (if present then .readParent login else .looking login left))
          (live.checkRepository login name) :=
        (live.judges_checkRepository login name).follows fun _ => rfl
      refine hlook.bind fun present => ?_
      cases present with
      | true => exact follows_tell rfl
      | false =>
          simp only [Bool.false_eq_true, if_false]
          split
          · exact .ask_bind rfl fun _ => ih _
          · exact ih _

theorem follows_createFork (live : Live) (owner name login : String) :
    live.Follows (forkScript live.timing.attempts owner name) (some (.checkParent login))
      (fun _ => some (.readParent login)) (live.createFork owner name login) := by
  have hcheck : live.Follows (forkScript live.timing.attempts owner name) (some (.checkParent login))
      (fun _ => some (.requestFork login)) (live.repository owner name) :=
    (live.judges_repository owner name).follows fun _ => rfl
  refine hcheck.bind fun _ => .ask_bind rfl fun _ => ?_
  dsimp only
  rw [← submit_bind]
  have hrequest : live.Follows (forkScript live.timing.attempts owner name) (some (.requestFork login))
      (fun _ => some (.looking login live.timing.attempts))
      (live.submit .post s!"{repositoryPath owner name}/forks" none "Could not create fork"
        s!"{owner}/{name}") :=
    (live.judges_submit _ _ _ _ _).follows fun _ => rfl
  exact hrequest.bind fun _ => .ask_bind rfl fun _ => live.follows_awaitFork _ _

theorem follows_syncDefaultBranch (live : Live) (owner name login : String) :
    live.Follows (forkScript attempts owner name) (some (.readParent login)) (fun _ => none)
      (live.syncDefaultBranch owner name login) := by
  have hparent : live.Follows (forkScript attempts owner name) (some (.readParent login))
      (fun wanted => some (.readFork login wanted)) (live.defaultBranch owner name) :=
    (live.judges_defaultBranch owner name).follows fun _ => rfl
  refine hparent.bind fun wanted => ?_
  have hfork : live.Follows (forkScript attempts owner name) (some (.readFork login wanted))
      (fun present => if wanted = present then none else some (.renameBranch login wanted present))
      (live.defaultBranch login name) :=
    (live.judges_defaultBranch login name).follows fun _ => rfl
  refine hfork.bind fun present => ?_
  dsimp only
  split
  · exact follows_tell rfl
  · refine .ask_bind rfl fun _ => ?_
    rw [← submit_bind]
    have hrename : live.Follows (forkScript attempts owner name)
        (some (.renameBranch login wanted present)) (fun _ => none)
        (live.submit .post s!"{repositoryPath login name}/branches/{present}/rename"
          (some (.object [("new_name", .string wanted)])) "Could not sync default branch"
          s!"{login}/{name}") :=
      (live.judges_submit _ _ _ _ _).follows fun _ => rfl
    exact hrename.bind fun _ => follows_pause rfl

theorem follows_forkAs (live : Live) (owner name login : String) :
    live.Follows (forkScript live.timing.attempts owner name) (some (.lookForFork login))
      (fun _ => none) (live.forkAs owner name login) := by
  have hlook : live.Follows (forkScript live.timing.attempts owner name) (some (.lookForFork login))
      (fun present => some (if present then .readParent login else .checkParent login))
      (live.checkRepository login name) :=
    (live.judges_checkRepository login name).follows fun _ => rfl
  refine hlook.bind fun present => ?_
  cases present with
  | true => exact .ask_bind rfl fun _ => live.follows_syncDefaultBranch owner name login
  | false =>
      exact (live.follows_createFork owner name login).bind fun _ =>
        live.follows_syncDefaultBranch owner name login

theorem follows_fork (live : Live) (owner name : String) (known : Login) :
    live.Follows (forkScript live.timing.attempts owner name) (some (forkStart known)) (fun _ => none)
      (live.withLogin (live.forkAs owner name) known) := by
  cases known with
  | some login => exact live.follows_forkAs owner name login
  | none =>
      have hlogin : live.Follows (forkScript live.timing.attempts owner name) (some .askLogin)
          (fun login => some (.lookForFork login)) live.fetchLogin :=
        live.judges_fetchLogin.follows fun _ => rfl
      exact hlogin.bind fun login => live.follows_forkAs owner name login

/-! ## The calls of a fork -/

/-- The calls that make a fork and look for it so many times. -/
def makingCalls (owner name login : String) (looks : Nat) : List Call :=
  lookAt owner name :: askForFork owner name :: List.replicate looks (lookAt login name)

/-- The wanted and the present default branch of a fork, where they differ. -/
abbrev Mismatch := { branches : String × String // branches.1 ≠ branches.2 }

/-- The calls that align the default branches. -/
def aligningCalls (owner name login : String) (mismatch : Option Mismatch) : List Call :=
  [lookAt owner name, lookAt login name] ++
    (mismatch.map fun branches => renameTo login name branches.val.1 branches.val.2).toList

/-- How a fork that meets no failure goes. -/
structure ForkCourse (attempts : Nat) where
  login : String
  /-- How often a new fork was looked for; nothing if no fork had to be made. -/
  looks : Option (Fin (attempts + 1))
  mismatch : Option Mismatch

/-- The calls of a fork that meets no failure, once the login is known. -/
def ForkCourse.calls (owner name : String) (course : ForkCourse attempts) : List Call :=
  lookAt course.login name ::
    ((course.looks.map fun looks => makingCalls owner name course.login looks.val).getD [] ++
      aligningCalls owner name course.login course.mismatch)

/-- The calls that a fork that meets no failure makes from a place on. -/
def ForkCalls (attempts : Nat) (owner name : String) : Option ForkStage → List Call → Prop
  | none, calls => calls = []
  | some .askLogin, calls => ∃ course : ForkCourse attempts, calls = askUser :: course.calls owner name
  | some (.lookForFork login), calls =>
    ∃ course : ForkCourse attempts, course.login = login ∧ calls = course.calls owner name
  | some (.checkParent login), calls => ∃ looks ≤ attempts, ∃ mismatch,
    calls = makingCalls owner name login looks ++ aligningCalls owner name login mismatch
  | some (.requestFork login), calls => ∃ looks ≤ attempts, ∃ mismatch,
    calls = askForFork owner name :: List.replicate looks (lookAt login name) ++
      aligningCalls owner name login mismatch
  | some (.awaitFork login left), calls => ∃ looks ≤ left + 1, ∃ mismatch,
    calls = List.replicate looks (lookAt login name) ++ aligningCalls owner name login mismatch
  | some (.readParent login), calls => ∃ mismatch, calls = aligningCalls owner name login mismatch
  | some (.readFork login wanted), calls =>
    calls = [lookAt login name] ∨
      ∃ present, wanted ≠ present ∧ calls = [lookAt login name, renameTo login name wanted present]
  | some (.renameBranch login wanted present), calls => calls = [renameTo login name wanted present]

theorem forkCalls_looking {left : Nat} {calls : List Call}
    (h : ForkCalls attempts owner name (some (.looking login left)) calls) :
    ∃ looks ≤ left, ∃ mismatch, calls =
      List.replicate looks (lookAt login name) ++ aligningCalls owner name login mismatch := by
  cases left with
  | zero =>
      obtain ⟨mismatch, rfl⟩ := h
      exact ⟨0, Nat.le_refl 0, mismatch, rfl⟩
  | succ left => exact h

/-- A response takes a fork from the calls of one place to those of the next. -/
theorem forkCalls_step {stage : ForkStage} {received : Received} {place : Option ForkStage}
    {calls : List Call} (h : (forkScript attempts owner name).next stage received = .ok place)
    (hcalls : ForkCalls attempts owner name place calls) :
    ForkCalls attempts owner name (some stage)
      ((forkScript attempts owner name).call stage :: calls) := by
  cases stage with
  | askLogin =>
      obtain ⟨login, -, rfl⟩ := map_eq_ok.1 h
      obtain ⟨course, -, rfl⟩ := hcalls
      exact ⟨course, rfl⟩
  | lookForFork login =>
      obtain ⟨present, -, rfl⟩ := map_eq_ok.1 h
      cases present with
      | true =>
          obtain ⟨mismatch, rfl⟩ := hcalls
          exact ⟨⟨login, none, mismatch⟩, rfl, rfl⟩
      | false =>
          obtain ⟨looks, hlooks, mismatch, rfl⟩ := hcalls
          exact ⟨⟨login, some ⟨looks, Nat.lt_succ_of_le hlooks⟩, mismatch⟩, rfl, rfl⟩
  | checkParent login =>
      obtain ⟨_, -, rfl⟩ := map_eq_ok.1 h
      obtain ⟨looks, hlooks, mismatch, rfl⟩ := hcalls
      exact ⟨looks, hlooks, mismatch, rfl⟩
  | requestFork login =>
      obtain ⟨_, -, rfl⟩ := map_eq_ok.1 h
      obtain ⟨looks, hlooks, mismatch, rfl⟩ := forkCalls_looking hcalls
      exact ⟨looks, hlooks, mismatch, rfl⟩
  | awaitFork login left =>
      obtain ⟨present, -, rfl⟩ := map_eq_ok.1 h
      cases present with
      | true =>
          obtain ⟨mismatch, rfl⟩ := hcalls
          exact ⟨1, Nat.succ_le_succ (Nat.zero_le left), mismatch, rfl⟩
      | false =>
          obtain ⟨looks, hlooks, mismatch, rfl⟩ := forkCalls_looking hcalls
          exact ⟨looks + 1, Nat.succ_le_succ hlooks, mismatch, rfl⟩
  | readParent login =>
      obtain ⟨wanted, -, rfl⟩ := map_eq_ok.1 h
      rcases hcalls with rfl | ⟨present, hne, rfl⟩
      · exact ⟨none, rfl⟩
      · exact ⟨some ⟨(wanted, present), hne⟩, rfl⟩
  | readFork login wanted =>
      obtain ⟨present, -, rfl⟩ := map_eq_ok.1 h
      split at hcalls
      · obtain rfl := hcalls
        exact Or.inl rfl
      · next hne =>
          obtain rfl := hcalls
          exact Or.inr ⟨present, hne, rfl⟩
  | renameBranch login wanted present =>
      obtain ⟨_, -, rfl⟩ := map_eq_ok.1 h
      obtain rfl := hcalls
      exact rfl

/-- From every stage on there are calls that a fork may make. -/
theorem forkCalls_exist (stage : ForkStage) :
    ∃ calls, ForkCalls attempts owner name (some stage)
      ((forkScript attempts owner name).call stage :: calls) := by
  cases stage with
  | askLogin => exact ⟨_, ⟨"", none, none⟩, rfl⟩
  | lookForFork login => exact ⟨_, ⟨login, none, none⟩, rfl, rfl⟩
  | checkParent login => exact ⟨_, 0, Nat.zero_le _, none, rfl⟩
  | requestFork login => exact ⟨_, 0, Nat.zero_le _, none, rfl⟩
  | awaitFork login left => exact ⟨_, 1, Nat.succ_le_succ (Nat.zero_le left), none, rfl⟩
  | readParent login => exact ⟨_, none, rfl⟩
  | readFork login wanted => exact ⟨_, Or.inl rfl⟩
  | renameBranch login wanted present => exact ⟨_, rfl⟩

/-- The calls that learn the login, unless it is known. -/
def loginCalls : Login → List Call
  | none => [askUser]
  | some _ => []

/-- A walk to the end makes the calls of a course, and one that breaks off begins such calls. -/
theorem Walk.forkCalls {known : Login} {turns : List (Turn ForkStage)}
    {ending : Except Failure (Option ForkStage)}
    (h : live.Walk (forkScript attempts owner name) (some (forkStart known)) turns ending)
    (hstops : ∀ stage, ending ≠ .ok (some stage)) :
    ∃ course : ForkCourse attempts, (∀ login, known = some login → course.login = login) ∧
      callsIn (forkScript attempts owner name) turns <+: loginCalls known ++ course.calls owner name ∧
      (ending = .ok none → callsIn (forkScript attempts owner name) turns =
        loginCalls known ++ course.calls owner name) := by
  have hnone : ForkCalls attempts owner name none [] := rfl
  obtain ⟨calls, hcalls, hprefix, hall⟩ :=
    Walk.calls_prefix hnone (fun _ _ _ _ => forkCalls_step) forkCalls_exist h hstops
  cases known with
  | none =>
      obtain ⟨course, rfl⟩ := hcalls
      exact ⟨course, nofun, hprefix, hall⟩
  | some login =>
      obtain ⟨course, hlogin, rfl⟩ := hcalls
      exact ⟨course, fun _ heq => hlogin.trans (Option.some.inj heq), hprefix, hall⟩

/-! ## Where a fork ends -/

/-- The last turns compared the default branches, and renamed that of the fork if they differ. -/
inductive Aligned (owner name login : String) : List (Turn ForkStage) → Prop where
  | inSync {earlier : List (Turn ForkStage)} {said said' : List Said} {parent fork : Received}
      {branch : String} (hparent : branchIn owner name parent = .ok branch)
      (hfork : branchIn login name fork = .ok branch) (hsuccess : fork.response.isSuccess = true) :
      Aligned owner name login (earlier ++ [⟨.readParent login, said, .ok parent⟩,
        ⟨.readFork login branch, said', .ok fork⟩])
  | renamed {earlier : List (Turn ForkStage)} {said said' said'' : List Said}
      {parent fork renamed : Received} {wanted present : String}
      (hparent : branchIn owner name parent = .ok wanted)
      (hfork : branchIn login name fork = .ok present) (hsuccess : fork.response.isSuccess = true)
      (hdiffers : wanted ≠ present) (hrenamed : renamed.response.isSuccess = true) :
      Aligned owner name login (earlier ++ [⟨.readParent login, said, .ok parent⟩,
        ⟨.readFork login wanted, said', .ok fork⟩,
        ⟨.renameBranch login wanted present, said'', .ok renamed⟩])

theorem Aligned.cons {later : List (Turn ForkStage)} (turn : Turn ForkStage)
    (h : Aligned owner name login later) : Aligned owner name login (turn :: later) := by
  cases h with
  | inSync hparent hfork hsuccess => exact @inSync _ _ _ (turn :: _) _ _ _ _ _ hparent hfork hsuccess
  | renamed hparent hfork hsuccess hdiffers hrenamed =>
      exact @renamed _ _ _ (turn :: _) _ _ _ _ _ _ _ _ hparent hfork hsuccess hdiffers hrenamed

theorem isSuccess_of_branchIn {received : Received} {branch : String}
    (h : branchIn owner name received = .ok branch) : received.response.isSuccess = true := by
  unfold branchIn description at h
  split at h
  · exact absurd h nofun
  · split at h
    · assumption
    · exact absurd h nofun

theorem aligned_of_readParent {turns : List (Turn ForkStage)}
    (h : live.Walk (forkScript attempts owner name) (some (.readParent login)) turns (.ok none)) :
    Aligned owner name login turns := by
  cases h with
  | went _ houtcome rest =>
      obtain ⟨parent, rfl, hnext⟩ := Turn.reply_of_outcome houtcome
      obtain ⟨wanted, hparent, rfl⟩ := map_eq_ok.1 hnext
      cases rest with
      | went _ houtcome rest =>
          obtain ⟨fork, rfl, hnext⟩ := Turn.reply_of_outcome houtcome
          obtain ⟨present, hfork, rfl⟩ := map_eq_ok.1 hnext
          have hsuccess := isSuccess_of_branchIn hfork
          split at rest
          · next heq =>
              subst heq
              cases rest with
              | here _ => exact @Aligned.inSync _ _ _ [] _ _ _ _ _ hparent hfork hsuccess
          · next hdiffers =>
              cases rest with
              | went _ houtcome rest =>
                  obtain ⟨renamed, rfl, hnext⟩ := Turn.reply_of_outcome houtcome
                  obtain ⟨_, haccepted, rfl⟩ := map_eq_ok.1 hnext
                  have hrenamed := accepted_eq_ok.1 haccepted
                  cases rest with
                  | here _ =>
                      exact @Aligned.renamed _ _ _ [] _ _ _ _ _ _ _ _ hparent hfork hsuccess hdiffers
                        hrenamed

/-- The stages of the account's fork before its default branch is compared. -/
def ForkStage.BeforeSync (login : String) : ForkStage → Prop
  | .lookForFork login' | .checkParent login' | .requestFork login' | .awaitFork login' _
  | .readParent login' => login' = login
  | .askLogin | .readFork _ _ | .renameBranch _ _ _ => False

theorem ForkStage.looking_beforeSync (login : String) (left : Nat) :
    (ForkStage.looking login left).BeforeSync login := by
  cases left with
  | zero | succ _ => rfl

/-- Before the comparison, a response leads to a stage that still comes before it. -/
theorem beforeSync_next {stage : ForkStage} {received : Received} {place : Option ForkStage}
    (h : (forkScript attempts owner name).next stage received = .ok place)
    (hstage : stage.BeforeSync login) (hread : stage ≠ .readParent login) :
    ∃ next, place = some next ∧ next.BeforeSync login := by
  cases stage with
  | lookForFork _ =>
      obtain ⟨present, -, rfl⟩ := map_eq_ok.1 h
      cases present with
      | true | false => exact ⟨_, rfl, hstage⟩
  | checkParent _ =>
      obtain ⟨_, -, rfl⟩ := map_eq_ok.1 h
      exact ⟨_, rfl, hstage⟩
  | requestFork _ =>
      obtain rfl := hstage
      obtain ⟨_, -, rfl⟩ := map_eq_ok.1 h
      exact ⟨_, rfl, ForkStage.looking_beforeSync _ attempts⟩
  | awaitFork _ left =>
      obtain rfl := hstage
      obtain ⟨present, -, rfl⟩ := map_eq_ok.1 h
      cases present with
      | true => exact ⟨_, rfl, rfl⟩
      | false => exact ⟨_, rfl, ForkStage.looking_beforeSync _ left⟩
  | readParent _ => exact absurd (congrArg _ hstage) hread
  | askLogin | readFork _ _ | renameBranch _ _ _ => exact absurd hstage id

/-- A fork that reaches the end has aligned the default branches. -/
theorem Walk.aligned {stage : ForkStage} {turns : List (Turn ForkStage)}
    (h : live.Walk (forkScript attempts owner name) (some stage) turns (.ok none))
    (hstage : stage.BeforeSync login) : Aligned owner name login turns := by
  induction turns generalizing stage with
  | nil => exact absurd h nofun
  | cons turn later ih =>
      by_cases hread : stage = .readParent login
      · subst hread
        exact aligned_of_readParent h
      · cases h with
        | went _ houtcome rest =>
            obtain ⟨received, -, hnext⟩ := Turn.reply_of_outcome houtcome
            obtain ⟨next, rfl, hbefore⟩ := beforeSync_next hnext hstage hread
            exact (ih rest hbefore).cons _

/-- The login that a fork works with: the known one, or the one that its first answer tells. -/
inductive WorksAs : Login → List (Turn ForkStage) → String → Prop where
  | known (login : String) (turns : List (Turn ForkStage)) : WorksAs (some login) turns login
  | asked {said : List Said} {received : Received} {login : String} (later : List (Turn ForkStage))
      (h : loginIn received = .ok login) :
      WorksAs none (⟨.askLogin, said, .ok received⟩ :: later) login

/-- From its start on, a fork that reaches the end has aligned the default branches. -/
theorem Walk.aligned_of_start {known : Login} {turns : List (Turn ForkStage)}
    (h : live.Walk (forkScript attempts owner name) (some (forkStart known)) turns (.ok none)) :
    ∃ login, WorksAs known turns login ∧ Aligned owner name login turns := by
  cases known with
  | some login => exact ⟨login, .known login turns, h.aligned rfl⟩
  | none =>
      cases h with
      | went _ houtcome rest =>
          obtain ⟨received, rfl, hnext⟩ := Turn.reply_of_outcome houtcome
          obtain ⟨login, hlogin, rfl⟩ := map_eq_ok.1 hnext
          exact ⟨login, .asked _ hlogin, (rest.aligned rfl).cons _⟩

/-! ## Forks -/

/-- A look at the parent was answered by the status of a missing repository. -/
def MissesParent (turn : Turn ForkStage) : Prop :=
  ∃ login received, (turn.stage = .checkParent login ∨ turn.stage = .readParent login) ∧
    turn.reply = .ok received ∧ received.response.status = 404

theorem MissesParent.outcome {turn : Turn ForkStage} (h : MissesParent turn) :
    turn.outcome (forkScript attempts owner name) =
      .error (.platform (.repositoryNotFound owner name)) := by
  obtain ⟨stage, said, reply⟩ := turn
  obtain ⟨login, received, hstage, rfl, hmissing⟩ := h
  have hdescription := @description_of_notFound owner name received hmissing
  rcases hstage with rfl | rfl
  · show (description owner name received).map _ = _
    rw [hdescription]
    rfl
  · show (branchIn owner name received).map _ = _
    rw [branchIn, hdescription]
    rfl

/-- **The calls of a fork.** Whatever the platform answers, and whether the login is known or not, a fork
    walks through `forkScript` and sends the requests of this walk and nothing else, each call by the one
    request that it is built into. The calls are, or where the walk breaks off begin, those of a
    `ForkCourse`. The fork succeeds if and only if every reply passes the check of its stage, and it fails
    with what its last reply led to, after replies that all passed; that the parent is missing is such a
    failure. A fork that succeeds has just read both default branches, and has renamed that of the fork
    unless they were equal. -/
theorem fork_requests (live : Live) (owner name : String) (known : Login)
    (platform : Oracle Host.Answer) (past : List Said) :
    let said := ((live.fork owner name).run.run known).transcript platform past
    let result := said.2.1
    let script := forkScript live.timing.attempts owner name
    ∃ turns, live.Walk script (some (forkStart known)) turns (result.map fun _ => none) ∧
      sent said.1 = saidIn turns ∧
      (∀ turn ∈ turns, ∀ request, live.request (script.call turn.stage).method
          (script.call turn.stage).path (script.call turn.stage).body = .ok request →
        ∃ answer, turn.said = [⟨.send request live.timeout, answer⟩] ∧
          turn.reply = replyTo request answer) ∧
      (∃ course : ForkCourse live.timing.attempts, (∀ login, known = some login → course.login = login) ∧
        callsIn script turns <+: loginCalls known ++ course.calls owner name ∧
        (result = .ok () → callsIn script turns = loginCalls known ++ course.calls owner name)) ∧
      (result = .ok () ↔ ∀ turn ∈ turns, turn.Passes script) ∧
      (∀ failure, result = .error failure ↔ ∃ earlier last, turns = earlier ++ [last] ∧
        (∀ turn ∈ earlier, turn.Passes script) ∧ last.outcome script = .error failure) ∧
      (∀ turn ∈ turns, MissesParent turn →
        result = .error (.platform (.repositoryNotFound owner name))) ∧
      (result = .ok () → ∃ login, WorksAs known turns login ∧ Aligned owner name login turns) := by
  intro said result script
  have hleads := Dialogue.leads_transcript platform past ((live.fork owner name).run.run known)
  obtain ⟨turns, hwalk, hsent⟩ :=
    live.follows_fork owner name known said.1 result (leads_login_bind hleads)
  have hresult : ∀ ending : Except Failure Unit, result = ending ↔
      result.map (fun _ => (none : Option ForkStage)) = ending.map fun _ => none := by
    intro ending
    cases result with
    | ok _ | error _ => cases ending <;> simp [Except.map]
  refine ⟨turns, hwalk, hsent, ?_, ?_, ?_, ?_, ?_, ?_⟩
  · intro turn hturn request hrequest
    exact (hwalk.sent turn hturn).of_built hrequest
  · obtain ⟨course, hlogin, hprefix, hall⟩ := hwalk.forkCalls (map_none_ne result)
    exact ⟨course, hlogin, hprefix, fun hok => hall ((hresult _).1 hok)⟩
  · rw [hresult, ← hwalk.ok_iff]
    cases result with
    | ok _ => exact iff_of_true rfl ⟨none, rfl⟩
    | error _ => exact iff_of_false nofun nofun
  · intro failure
    rw [hresult]
    exact hwalk.error_iff failure
  · intro turn hturn hmisses
    exact (hresult _).2 (hwalk.ending_of_failed hturn hmisses.outcome)
  · intro hok
    rw [hok] at hwalk
    exact hwalk.aligned_of_start

end PullRequestBot.Live
