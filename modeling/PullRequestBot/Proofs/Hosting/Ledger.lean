import PullRequestBot.Proofs.Hosting.Fork

set_option autoImplicit false

/-! # The ledger of the login

What an operation of the live backend leaves known of the login depends on the calls that it made. Either
it did not ask for the account, or it asked and was not told, or it asked and was told; `Ledger` has an entry
for each. So an operation that is not told fails and remembers nothing (`Ledger.of_not_told`), what is told
is remembered (`Ledger.of_told`), and what is known is not asked for (`Ledger.of_known`). -/

namespace PullRequestBot.Live

variable {α β Stage : Type} {live : Live} {owner name login : String} {known after : Login}
  {said : List Said} {failure : Failure}

/-! ## Calls that were made -/

/-- A call that was made, with what was said of it and its reply. -/
structure Made (live : Live) where
  call : Call
  said : List Said
  reply : Reply
  sent : live.Sent call said reply

/-- The requests of calls, in order. -/
def requestsOf (calls : List (Made live)) : List Said :=
  calls.flatMap Made.said

theorem requestsOf_append (calls later : List (Made live)) :
    requestsOf (calls ++ later) = requestsOf calls ++ requestsOf later :=
  List.flatMap_append

/-- An attempt that makes one call. -/
theorem Judges.made {call : Call} {verdict : Received → Except Failure α} {attempt : Attempt α}
    {result : Except Failure α} (h : live.Judges call verdict attempt)
    (hleads : attempt.run.Leads said result) :
    ∃ made : Made live, made.call = call ∧ sent said = requestsOf [made] ∧
      result = judge verdict made.reply := by
  obtain ⟨reply, hsent, hresult⟩ := h said result hleads
  exact ⟨⟨call, sent said, reply, hsent⟩, rfl, (List.append_nil _).symm, hresult⟩

/-- The calls of a walk. -/
theorem Walk.made {script : Script Stage} {place : Option Stage} {turns : List (Turn Stage)}
    {ending : Except Failure (Option Stage)} (h : live.Walk script place turns ending) :
    ∃ calls : List (Made live), calls.map Made.call = callsIn script turns ∧
      saidIn turns = requestsOf calls := by
  induction h with
  | here _ => exact ⟨[], rfl, rfl⟩
  | failed hsent _ => exact ⟨[⟨_, _, _, hsent⟩], rfl, rfl⟩
  | @went stage place said reply later ending hsent _ _ ih =>
      obtain ⟨calls, hcalls, hsaid⟩ := ih
      refine ⟨⟨script.call stage, said, reply, hsent⟩ :: calls, ?_, ?_⟩
      · exact congrArg (List.cons (script.call stage)) hcalls
      · exact congrArg (said ++ ·) hsaid

/-! ## Calls that do not ask for the account -/

/-- None of the calls asks whose account it is. -/
def Quiet (calls : List Call) : Prop :=
  ∀ call ∈ calls, call ≠ askUser

theorem ne_askUser {call : Call} (h : call.path.toList[1]? ≠ some 'u') : call ≠ askUser := by
  rintro rfl
  exact h rfl

theorem lookAt_ne_askUser (owner name : String) : lookAt owner name ≠ askUser :=
  ne_askUser (by simp [lookAt, repositoryPath, toString])

theorem ne_askUser_of_post {call : Call} (h : call.method = .post) : call ≠ askUser := by
  rintro rfl
  exact absurd h nofun

@[simp] theorem quiet_nil : Quiet [] :=
  nofun

@[simp] theorem quiet_cons {call : Call} {calls : List Call} :
    Quiet (call :: calls) ↔ call ≠ askUser ∧ Quiet calls :=
  List.forall_mem_cons

@[simp] theorem quiet_append {calls later : List Call} :
    Quiet (calls ++ later) ↔ Quiet calls ∧ Quiet later :=
  List.forall_mem_append

theorem Quiet.of_subset {calls later : List Call} (hlater : Quiet later) (h : calls ⊆ later) :
    Quiet calls :=
  fun call hcall => hlater call (h hcall)

/-! ## Asking for the login -/

/-- A call asked whose account it is, and its reply told the login. -/
def Made.Tells (made : Made live) (login : String) : Prop :=
  made.call = askUser ∧ ∃ received, made.reply = .ok received ∧ TellsLogin login received

theorem Made.tells_iff {made : Made live} (h : made.call = askUser) :
    made.Tells login ↔ judge loginIn made.reply = .ok login := by
  refine (and_iff_right h).trans ?_
  cases made.reply with
  | ok received =>
      refine Iff.trans ?_ loginIn_eq_ok.symm
      exact ⟨fun ⟨_, heq, htells⟩ => Except.ok.inj heq ▸ htells, fun htells => ⟨received, rfl, htells⟩⟩
  | error _ => exact iff_of_false (fun ⟨_, heq, _⟩ => absurd heq nofun) nofun

/-- What becomes of asking for the login: it is known, or the account is asked for, and told or not. -/
inductive Consults (live : Live) : Login → List (Made live) → Except Failure String × Login → Prop where
  | known (login : String) : Consults live (some login) [] (.ok login, some login)
  | told {made : Made live} {login : String} (htells : made.Tells login) :
      Consults live none [made] (.ok login, some login)
  | refused {made : Made live} {failure : Failure} (hcall : made.call = askUser)
      (hrefused : judge loginIn made.reply = .error failure) :
      Consults live none [made] (.error failure, none)

theorem leads_login {ended : Except Failure String × Login}
    (h : (live.login.run.run known).Leads said ended) :
    ∃ calls : List (Made live), sent said = requestsOf calls ∧ Consults live known calls ended := by
  cases known with
  | some login =>
      rw [run_login_some] at h
      obtain ⟨rfl, rfl⟩ := Dialogue.leads_done_iff.1 h
      exact ⟨[], rfl, .known login⟩
  | none =>
      rw [run_login_none] at h
      obtain ⟨now, result, later, rfl, hfetch, hend⟩ := Dialogue.leads_bind_iff.1 h
      obtain ⟨rfl, rfl⟩ := Dialogue.leads_done_iff.1 hend
      obtain ⟨made, hcall, hsent, rfl⟩ := live.judges_fetchLogin.made hfetch
      refine ⟨[made], by rw [List.append_nil, hsent], ?_⟩
      cases hverdict : judge loginIn made.reply with
      | ok login => exact .told ((Made.tells_iff hcall).2 hverdict)
      | error failure => exact .refused hcall hverdict

/-- An operation that starts with the login. -/
theorem leads_login_then {next : String → Act α} {ended : Except Failure α × Login}
    (h : ((live.login >>= next).run.run known).Leads said ended) :
    (∃ (calls : List (Made live)) (failure : Failure) (after : Login), sent said = requestsOf calls ∧
        Consults live known calls (.error failure, after) ∧ ended = (.error failure, after)) ∨
      ∃ (asked later : List Said) (calls : List (Made live)) (login : String), said = asked ++ later ∧
        sent asked = requestsOf calls ∧ Consults live known calls (.ok login, some login) ∧
        ((next login).run.run (some login)).Leads later ended := by
  rcases Dialogue.leads_stateful_bind_iff.1 h with
    ⟨failure, after, rfl, hlogin⟩ | ⟨asked, login, middle, later, rfl, hlogin, hrest⟩
  · obtain ⟨calls, hsent, hconsults⟩ := leads_login hlogin
    exact Or.inl ⟨calls, failure, after, hsent, hconsults, rfl⟩
  · obtain ⟨calls, hsent, hconsults⟩ := leads_login hlogin
    refine Or.inr ⟨asked, later, calls, login, rfl, hsent, ?_⟩
    cases hconsults with
    | known _ => exact ⟨.known login, hrest⟩
    | told htells => exact ⟨.told htells, hrest⟩

theorem Consults.calls_eq {calls : List (Made live)} {ended : Except Failure String × Login}
    (h : Consults live known calls ended) : calls.map Made.call = loginCalls known := by
  cases h with
  | known _ => rfl
  | told htells => exact congrArg (fun call => [call]) htells.1
  | refused hcall _ => exact congrArg (fun call => [call]) hcall

theorem Consults.asks {calls : List (Made live)} {ended : Except Failure String × Login}
    (h : Consults live none calls ended) : ∃ made ∈ calls, made.call = askUser := by
  cases h with
  | told htells => exact ⟨_, List.mem_singleton_self _, htells.1⟩
  | refused hcall _ => exact ⟨_, List.mem_singleton_self _, hcall⟩

/-! ## The ledger -/

/-- How the calls of an operation and its result go with what is known of the login before and after. -/
inductive Ledger (live : Live) : Login → List (Made live) → Except Failure α → Login → Prop where
  /-- The account was not asked for. -/
  | kept {known : Login} {calls : List (Made live)} {result : Except Failure α}
      (hquiet : Quiet (calls.map Made.call)) : Ledger live known calls result known
  /-- The account was asked for last, and not told: the operation fails. -/
  | refused {earlier : List (Made live)} {made : Made live} {failure : Failure}
      (hquiet : Quiet (earlier.map Made.call)) (hcall : made.call = askUser)
      (hrefused : judge loginIn made.reply = .error failure) :
      Ledger live none (earlier ++ [made]) (.error failure) none
  /-- The account was asked for once, and told. -/
  | learnt {earlier later : List (Made live)} {made : Made live} {login : String}
      {result : Except Failure α} (hearlier : Quiet (earlier.map Made.call)) (htells : made.Tells login)
      (hlater : Quiet (later.map Made.call)) :
      Ledger live none (earlier ++ made :: later) result (some login)

variable {calls earlier later : List (Made live)} {result : Except Failure α}

theorem Consults.ledger_of_error (h : Consults live known calls (.error failure, after))
    (hearlier : Quiet (earlier.map Made.call)) :
    Ledger live known (earlier ++ calls) (.error failure : Except Failure α) after := by
  cases h with
  | refused hcall hrefused => exact .refused hearlier hcall hrefused

theorem Consults.ledger_of_ok (h : Consults live known calls (.ok login, some login))
    (hearlier : Quiet (earlier.map Made.call)) (hlater : Quiet (later.map Made.call)) :
    Ledger live known (earlier ++ (calls ++ later)) result (some login) := by
  cases h with
  | known _ =>
      refine .kept ?_
      rw [List.nil_append, List.map_append]
      exact quiet_append.2 ⟨hearlier, hlater⟩
  | told htells => exact .learnt hearlier htells hlater

theorem not_tells_of_quiet {made : Made live} (hquiet : Quiet (calls.map Made.call))
    (hmade : made ∈ calls) : made.call ≠ askUser :=
  hquiet made.call (List.mem_map_of_mem hmade)

/-- What follows a part that succeeds does not change the entry. -/
theorem Ledger.of_ok {value : β} (h : Ledger live known calls (.ok value : Except Failure β) after) :
    Ledger live known calls result after := by
  cases h with
  | kept hquiet => exact .kept hquiet
  | learnt hearlier htells hlater => exact .learnt hearlier htells hlater

theorem Ledger.of_error (h : Ledger live known calls (.error failure : Except Failure β) after) :
    Ledger live known calls (.error failure : Except Failure α) after := by
  cases h with
  | kept hquiet => exact .kept hquiet
  | refused hquiet hcall hrefused => exact .refused hquiet hcall hrefused
  | learnt hearlier htells hlater => exact .learnt hearlier htells hlater

/-- Whoever asks for the account and is not told fails, and remembers nothing. -/
theorem Ledger.of_not_told (h : Ledger live known calls result after) {made : Made live}
    (hmade : made ∈ calls) (hcall : made.call = askUser) (hnot : ∀ login, ¬ made.Tells login) :
    (∃ failure, judge loginIn made.reply = .error failure ∧ result = .error failure) ∧
      known = none ∧ after = none := by
  cases h with
  | kept hquiet => exact absurd hcall (not_tells_of_quiet hquiet hmade)
  | refused hquiet hcall' hrefused =>
      rcases List.mem_append.1 hmade with hmade | hmade
      · exact absurd hcall (not_tells_of_quiet hquiet hmade)
      · obtain rfl := List.mem_singleton.1 hmade
        exact ⟨⟨_, hrefused, rfl⟩, rfl, rfl⟩
  | learnt hearlier htells hlater =>
      rcases List.mem_append.1 hmade with hmade | hmade
      · exact absurd hcall (not_tells_of_quiet hearlier hmade)
      · rcases List.mem_cons.1 hmade with rfl | hmade
        · exact absurd htells (hnot _)
        · exact absurd hcall (not_tells_of_quiet hlater hmade)

/-- The login that is told is remembered. -/
theorem Ledger.of_told (h : Ledger live known calls result after) {made : Made live}
    (hmade : made ∈ calls) (htells : made.Tells login) : after = some login := by
  cases h with
  | kept hquiet => exact absurd htells.1 (not_tells_of_quiet hquiet hmade)
  | refused hquiet hcall hrefused =>
      rcases List.mem_append.1 hmade with hmade | hmade
      · exact absurd htells.1 (not_tells_of_quiet hquiet hmade)
      · obtain rfl := List.mem_singleton.1 hmade
        have htold := (Made.tells_iff hcall).1 htells
        rw [hrefused] at htold
        exact absurd htold nofun
  | learnt hearlier htells' hlater =>
      rcases List.mem_append.1 hmade with hmade | hmade
      · exact absurd htells.1 (not_tells_of_quiet hearlier hmade)
      · rcases List.mem_cons.1 hmade with rfl | hmade
        · have htold := (Made.tells_iff htells.1).1 htells
          have htold' := (Made.tells_iff htells.1).1 htells'
          exact congrArg some (Except.ok.inj (htold'.symm.trans htold))
        · exact absurd htells.1 (not_tells_of_quiet hlater hmade)

/-- A login that is known is kept, and the account is not asked for. -/
theorem Ledger.of_known (h : Ledger live (some login) calls result after) :
    after = some login ∧ Quiet (calls.map Made.call) := by
  cases h with
  | kept hquiet => exact ⟨rfl, hquiet⟩

/-- After a call that told the login, no call asks for the account. -/
def AsksNoMore (made later : Made live) : Prop :=
  (∃ login, made.Tells login) → later.call ≠ askUser

theorem asksNoMore_of_quiet (hquiet : Quiet (calls.map Made.call)) {made : Made live}
    (hmade : made ∈ calls) (later : Made live) : AsksNoMore made later :=
  fun ⟨_, htells⟩ => absurd htells.1 (not_tells_of_quiet hquiet hmade)

theorem pairwise_of_quiet (hquiet : Quiet (calls.map Made.call)) : calls.Pairwise AsksNoMore :=
  List.pairwise_iff_forall_sublist.2 fun hsublist =>
    asksNoMore_of_quiet hquiet (hsublist.subset List.mem_cons_self) _

theorem Ledger.pairwise (h : Ledger live known calls result after) : calls.Pairwise AsksNoMore := by
  cases h with
  | kept hquiet => exact pairwise_of_quiet hquiet
  | refused hquiet _ _ =>
      refine List.pairwise_append.2 ⟨pairwise_of_quiet hquiet, List.pairwise_singleton _ _, ?_⟩
      exact fun made hmade last _ => asksNoMore_of_quiet hquiet hmade last
  | learnt hearlier _ hlater =>
      refine List.pairwise_append.2 ⟨pairwise_of_quiet hearlier, ?_, ?_⟩
      · refine List.pairwise_cons.2 ⟨?_, pairwise_of_quiet hlater⟩
        exact fun call hcall _ => not_tells_of_quiet hlater hcall
      · exact fun made hmade call _ => asksNoMore_of_quiet hearlier hmade call

end PullRequestBot.Live
