import PullRequestBot.Proofs.Hosting.Call
import PullRequestBot.Proofs.Result

set_option autoImplicit false

/-! # Operations and the login

The operations of the live backend remember the login of the account. Asked for it while it is known,
nothing is sent; else the account is asked for, and the login is remembered exactly if that succeeds
(`run_login_none`). What an operation that starts with the login attempts is `withLogin`. -/

namespace PullRequestBot.Live

open Result (bind_eq_ok)

variable {α β : Type} {live : Live}

/-! ## The login in a response -/

/-- A response tells the login: it is successful, and its body is JSON with it. -/
def TellsLogin (login : String) (received : Received) : Prop :=
  received.response.isSuccess = true ∧
    ∃ value, bodyJson received = .ok value ∧ stringField value "login" = some login

theorem loginIn_eq_ok {login : String} {received : Received} :
    loginIn received = .ok login ↔ TellsLogin login received := by
  unfold loginIn
  simp only [bind_eq_ok, jsonIn_eq_ok]
  constructor
  · rintro ⟨_, haccepted, value, hvalue, hlogin⟩
    refine ⟨accepted_eq_ok.1 haccepted, value, hvalue, ?_⟩
    cases hfield : stringField value "login" with
    | some found =>
        rw [hfield] at hlogin
        exact congrArg some (Except.ok.inj hlogin)
    | none =>
        rw [hfield] at hlogin
        exact absurd hlogin nofun
  · rintro ⟨hsuccess, value, hvalue, hlogin⟩
    exact ⟨(), accepted_eq_ok.2 hsuccess, value, hvalue, by rw [hlogin]⟩

/-! ## Operations that need the login -/

/-- A sequence of operations: the second part starts with what the first part leaves remembered, and a
    failure of the first part is the failure of the whole. -/
theorem run_bind (first : Act α) (next : α → Act β) (known : Login) :
    (first >>= next).run.run known = first.run.run known >>= fun ended =>
      match ended.1 with
      | .ok value => (next value).run.run ended.2
      | .error failure => pure (.error failure, ended.2) := by
  rw [ExceptT.run_bind, StateT.run_bind]
  refine bind_congr fun ended => ?_
  rcases ended with ⟨failure | value, after⟩ <;> rfl

/-- An attempt that does not need the login leaves it as it is. -/
theorem run_plainly (attempt : Attempt α) (known : Login) :
    (plainly attempt).run.run known = attempt.run >>= fun result => pure (result, known) := rfl

theorem run_login_some (live : Live) (login : String) :
    live.login.run.run (some login) = pure (.ok login, some login) := rfl

theorem run_login_none (live : Live) :
    live.login.run.run none =
      live.fetchLogin.run >>= fun result => pure (result, result.toOption) := by
  rw [login, run_bind]
  show (plainly live.fetchLogin >>= fun login => set (some login) >>= fun _ => pure login :
    Act String).run.run none = _
  rw [run_bind, run_plainly, bind_assoc]
  refine bind_congr fun result => ?_
  cases result with
  | ok _ | error _ => rfl

theorem run_login_bind_some (next : String → Act α) (login : String) :
    (live.login >>= next).run.run (some login) = (next login).run.run (some login) := by
  rw [run_bind, run_login_some, pure_bind]

/-- What is done with the login, where it has to be asked for. -/
theorem run_login_bind_none (next : String → Act α) :
    (live.login >>= next).run.run none = live.fetchLogin.run >>= fun result =>
      match result with
      | .ok login => (next login).run.run (some login)
      | .error failure => pure (.error failure, none) := by
  rw [run_bind, run_login_none, bind_assoc]
  refine bind_congr fun result => ?_
  cases result with
  | ok _ | error _ => rfl

/-- What is attempted with the login, which is asked for first unless it is known. -/
def withLogin (live : Live) (rest : String → Attempt α) : Login → Attempt α
  | some login => rest login
  | none => live.fetchLogin >>= rest

theorem leads_plainly {attempt : Attempt α} {known : Login} {said : List Said}
    {ended : Except Failure α × Login} (h : ((plainly attempt).run.run known).Leads said ended) :
    attempt.run.Leads said ended.1 ∧ ended.2 = known := by
  rw [run_plainly] at h
  obtain ⟨before, result, after, rfl, hattempt, hend⟩ := Dialogue.leads_bind_iff.1 h
  obtain ⟨rfl, rfl⟩ := Dialogue.leads_done_iff.1 hend
  rw [List.append_nil]
  exact ⟨hattempt, rfl⟩

/-- An operation that starts with a part that does not need the login. -/
theorem leads_plainly_bind {first : Attempt α} {next : α → Act β} {known : Login} {said : List Said}
    {ended : Except Failure β × Login}
    (h : ((plainly first >>= next).run.run known).Leads said ended) :
    (∃ failure, ended = (.error failure, known) ∧ first.run.Leads said (.error failure)) ∨
      ∃ now value later, said = now ++ later ∧ first.run.Leads now (.ok value) ∧
        ((next value).run.run known).Leads later ended := by
  rcases Dialogue.leads_stateful_bind_iff.1 h with
    ⟨failure, after, rfl, hplain⟩ | ⟨now, value, middle, later, rfl, hplain, hrest⟩
  · obtain ⟨hfirst, rfl⟩ : first.run.Leads said (.error failure) ∧ after = known := leads_plainly hplain
    exact Or.inl ⟨failure, rfl, hfirst⟩
  · obtain ⟨hfirst, rfl⟩ : first.run.Leads now (.ok value) ∧ middle = known := leads_plainly hplain
    exact Or.inr ⟨now, value, later, rfl, hfirst, hrest⟩

/-- An operation that starts with the login and does not need it further. -/
theorem leads_login_bind {rest : String → Attempt α} {known : Login} {said : List Said}
    {ended : Except Failure α × Login}
    (h : ((live.login >>= fun login => plainly (rest login)).run.run known).Leads said ended) :
    (live.withLogin rest known).run.Leads said ended.1 := by
  cases known with
  | some login =>
      rw [run_login_bind_some] at h
      exact (leads_plainly h).1
  | none =>
      rw [run_login_bind_none] at h
      obtain ⟨before, result, after, rfl, hfetch, hafter⟩ := Dialogue.leads_bind_iff.1 h
      refine Dialogue.leads_run_bind_iff.2 ?_
      cases result with
      | error failure =>
          obtain ⟨rfl, rfl⟩ := Dialogue.leads_done_iff.1 hafter
          rw [List.append_nil]
          exact Or.inl ⟨failure, rfl, hfetch⟩
      | ok login => exact Or.inr ⟨before, login, after, rfl, hfetch, (leads_plainly hafter).1⟩

/-- An operation that starts with the login and succeeds remembers it. -/
theorem knows_of_leads {rest : String → Attempt α} {known : Login} {said : List Said} {value : α}
    {after : Login}
    (h : ((live.login >>= fun login => plainly (rest login)).run.run known).Leads said (.ok value, after)) :
    ∃ login, after = some login := by
  cases known with
  | some login =>
      rw [run_login_bind_some] at h
      exact ⟨login, (leads_plainly h).2⟩
  | none =>
      rw [run_login_bind_none] at h
      obtain ⟨before, result, later, rfl, -, hafter⟩ := Dialogue.leads_bind_iff.1 h
      cases result with
      | error failure => exact absurd (Dialogue.leads_done_iff.1 hafter).2 nofun
      | ok login => exact ⟨login, (leads_plainly hafter).2⟩

end PullRequestBot.Live
