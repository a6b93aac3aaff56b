import PullRequestBot.Hosting.Selection
import PullRequestBot.Proofs.Git.RunnerSecrecy
import PullRequestBot.Proofs.Redactor.Idempotence

set_option autoImplicit false

/-! # Which backend masks the token

The settings name a token directly or by an environment variable. The live backend masks it in whatever
its git client gives. A dry run asks for no token, and its git client masks nothing at all
(`ofSettings_masks_iff`). -/

namespace PullRequestBot

open Dialogue (Always Exchange Oracle)
open Host (ask tell)

/-! ## Runners that mask a token -/

/-- Nothing that a runner gives holds the token: no text that it masks, no captured output of a git
    command, and no message about one that failed. -/
structure Git.Runner.Masks (runner : Git.Runner) (token : String) : Prop where
  redact : ∀ text, ¬ token.toList <:+: (runner.redact text).toList
  output : ∀ arguments directory options (host : Oracle Host.Answer) past output,
    ((runner.run arguments directory options).run.transcript host past).2 = .ok output →
      ¬ token.toList <:+: output.stdout.toList ∧
        ∀ text, output.stderr = some text → ¬ token.toList <:+: text.toList
  failure : ∀ arguments directory options (host : Oracle Host.Answer) past text exitCode,
    ((runner.run arguments directory options).run.transcript host past).2 =
        .error (.git (.commandFailed text exitCode)) →
      ¬ token.toList <:+: text.toList

/-- A runner masks its registered tokens. -/
theorem Git.Runner.masks_of_mem {runner : Git.Runner} {token : String}
    (h : runner.redactor.Maskable) (htoken : token ∈ runner.redactor.tokens) : runner.Masks token where
  redact text := Redactor.hides_redact h text token htoken
  output arguments directory options host past output hresult := by
    have hend := (run_guards h arguments directory options).leads
      (Dialogue.leads_transcript host past _)
    rw [hresult] at hend
    have hguards : runner.GuardsOutput output := hend.2
    exact ⟨hguards.stdout token htoken, fun text htext => hguards.stderr text htext token htoken⟩
  failure arguments directory options host past text exitCode hresult := by
    have hend := (run_guards h arguments directory options).leads
      (Dialogue.leads_transcript host past _)
    rw [hresult] at hend
    have hhides : runner.redactor.Hides text := hend.2
    exact hhides token htoken

/-- A runner without tokens shows every text as it is. -/
theorem Git.Runner.redact_of_empty {runner : Git.Runner} (h : runner.redactor = .empty) (text : String) :
    runner.redact text = text := by
  rw [redact, h, Redactor.redact_eq_self_iff]
  intro token htoken
  exact absurd htoken List.not_mem_nil

theorem Git.Runner.not_masks_of_empty {runner : Git.Runner} (h : runner.redactor = .empty)
    (token : String) : ¬ runner.Masks token := by
  intro hmasks
  have hfree := hmasks.redact token
  rw [redact_of_empty h] at hfree
  exact hfree List.infix_rfl

/-! ## The token of the settings -/

namespace Settings

variable {settings : Settings} {environment : String → Option String} {host : Oracle Host.Answer}
  {token : String}

theorem nonempty?_ne_empty {text : Option String} (h : nonempty? text = some token) : token ≠ "" := by
  obtain ⟨-, hnonempty⟩ := Option.filter_eq_some_iff.1 h
  rintro rfl
  simp at hnonempty

/-- The token given directly counts before the one in the environment. -/
theorem resolveToken_transcript (settings : Settings)
    (h : ∀ past name, host past (.environmentVariable name) = environment name)
    (past : List (Exchange Host.Answer)) :
    (settings.resolveToken.transcript host past).2 =
      (nonempty? settings.token).or (nonempty? (environment settings.tokenVariable)) := by
  unfold resolveToken
  cases nonempty? settings.token with
  | some token => rfl
  | none =>
      show nonempty? (host past (.environmentVariable settings.tokenVariable)) = _
      rw [h]
      rfl

theorem token_ne_empty
    (h : (nonempty? settings.token).or (nonempty? (environment settings.tokenVariable)) = some token) :
    token ≠ "" := by
  rcases Option.or_eq_some_iff.1 h with h | ⟨-, h⟩
  · exact nonempty?_ne_empty h
  · exact nonempty?_ne_empty h

end Settings

/-! ## The backends -/

/-- A runner that was only located masks nothing. -/
theorem Git.Runner.locate_redactor (host : Oracle Host.Answer) (past : List (Exchange Host.Answer)) :
    (Git.Runner.locate.transcript host past).2.redactor = .empty := by
  have hempty : Git.Runner.locate.Always (fun _ => True) fun runner => runner.redactor = .empty := by
    refine ⟨trivial, fun answer => ?_⟩
    cases answer with
    | none => exact ⟨trivial, fun _ => rfl⟩
    | some path => exact rfl
  exact (hempty.leads (Dialogue.leads_transcript host past _)).2

namespace Backend

variable {settings : Settings} {host : Oracle Host.Answer} {token : String}

/-- A dry run is made whatever the token is, with the runner as it was located. -/
theorem ofSettings_dryRun (host : Oracle Host.Answer) (hdry : settings.dryRun = true)
    (past : List (Exchange Host.Answer)) :
    ∃ runner : Git.Runner, runner.redactor = .empty ∧
      ((ofSettings settings).run.transcript host past).2 = .ok (.dryRun { client := ⟨runner⟩ } []) := by
  refine ⟨{ (Git.Runner.locate.transcript host past).2 with lock := lockOf settings },
    Git.Runner.locate_redactor host past, ?_⟩
  unfold ofSettings
  refine (Dialogue.result_lift_bind host past _ _).trans ?_
  dsimp only
  rw [if_pos hdry]
  rfl

/-- With a token, a backend that is no dry run is live, and the token is the one that its runner masks. -/
theorem ofSettings_live (hlive : settings.dryRun = false) (past : List (Exchange Host.Answer))
    (htoken : ∀ past, (settings.resolveToken.transcript host past).2 = some token) :
    ∃ live : Live, live.client.runner.redactor = Redactor.empty.add token ∧
      ((ofSettings settings).run.transcript host past).2 = .ok (.live live none) := by
  refine ⟨Live.create token settings.apiUrl
    { (Git.Runner.locate.transcript host past).2 with lock := lockOf settings } settings.forkTiming
    settings.requestTimeout, ?_, ?_⟩
  · show (Git.Runner.locate.transcript host past).2.redactor.add token = _
    rw [Git.Runner.locate_redactor]
  · unfold ofSettings
    refine (Dialogue.result_lift_bind host past _ _).trans ?_
    dsimp only
    rw [if_neg (by simp [hlive])]
    refine (Dialogue.result_lift_bind host _ settings.resolveToken _).trans ?_
    rw [htoken]
    rfl

/-- **Which backend masks the token.** Where the settings and the environment give a token without the
    character that masks, there is a backend, and its git client masks the token exactly if it is no dry
    run. The git client of a dry run shows every text as it is. -/
theorem ofSettings_masks_iff (settings : Settings) (environment : String → Option String)
    (host : Oracle Host.Answer) (past : List (Exchange Host.Answer)) (token : String)
    (henvironment : ∀ past name, host past (.environmentVariable name) = environment name)
    (htoken : (settings.resolveToken.transcript host past).2 = some token)
    (hmask : '*' ∉ token.toList) :
    ∃ backend, ((ofSettings settings).run.transcript host past).2 = .ok backend ∧
      backend.isDryRun = settings.dryRun ∧
      (backend.client.runner.Masks token ↔ settings.dryRun = false) ∧
      (settings.dryRun = true → ∀ text, backend.client.runner.redact text = text) := by
  have hresolved := settings.resolveToken_transcript henvironment
  cases hdry : settings.dryRun with
  | true =>
      obtain ⟨runner, hempty, hresult⟩ := ofSettings_dryRun host hdry past
      refine ⟨_, hresult, rfl, iff_of_false (Git.Runner.not_masks_of_empty hempty token) nofun, fun _ => ?_⟩
      exact Git.Runner.redact_of_empty hempty
  | false =>
      have htokens : ∀ past, (settings.resolveToken.transcript host past).2 = some token := by
        intro past'
        rw [hresolved, ← hresolved past, htoken]
      obtain ⟨live, hredactor, hresult⟩ := ofSettings_live hdry past htokens
      have hmem : ∀ text, text ∈ live.client.runner.redactor.tokens ↔ text = token := by
        intro text
        have hne : token ≠ "" := Settings.token_ne_empty ((hresolved past).symm.trans htoken)
        rw [hredactor, Redactor.mem_add, or_iff_right (show text ∉ Redactor.empty.tokens from List.not_mem_nil),
          and_iff_left_iff_imp]
        rintro rfl
        exact hne
      have hmaskable : live.client.runner.redactor.Maskable := by
        intro text htext
        rw [(hmem text).1 htext]
        exact hmask
      refine ⟨_, hresult, rfl, iff_of_true ?_ rfl, nofun⟩
      exact Git.Runner.masks_of_mem hmaskable ((hmem token).2 rfl)

/-- The case of a live backend with a token that is given directly. -/
theorem live_backend_masks_its_token :
    let settings : Settings := { token := some "s3cr3t" }
    let host := Git.Runner.processHost {}
    (∀ past name, host past (.environmentVariable name) = none) ∧
      (settings.resolveToken.transcript host []).2 = some "s3cr3t" ∧ '*' ∉ "s3cr3t".toList ∧
      ∃ backend, ((ofSettings settings).run.transcript host []).2 = .ok backend ∧
        backend.client.runner.Masks "s3cr3t" := by
  intro settings host
  have henvironment : ∀ past name, host past (.environmentVariable name) = none := fun _ _ => rfl
  have htoken : (settings.resolveToken.transcript host []).2 = some "s3cr3t" := rfl
  have hmask : '*' ∉ "s3cr3t".toList := by decide
  obtain ⟨backend, hresult, -, hmasks, -⟩ :=
    ofSettings_masks_iff settings (fun _ => none) host [] "s3cr3t" henvironment htoken hmask
  exact ⟨henvironment, htoken, hmask, backend, hresult, hmasks.2 rfl⟩

/-- The git client of a dry run shows the token in the address of a remote. -/
theorem dry_run_shows_its_token :
    let settings : Settings := { dryRun := true, token := some "s3cr3t" }
    let host := Git.Runner.processHost {}
    let url := "https://s3cr3t@github.com/o/n.git"
    (settings.resolveToken.transcript host []).2 = some "s3cr3t" ∧ '*' ∉ "s3cr3t".toList ∧
      ∃ backend, ((ofSettings settings).run.transcript host []).2 = .ok backend ∧
        "s3cr3t".toList <:+: (backend.client.runner.redact url).toList := by
  intro settings host url
  refine ⟨rfl, by decide, .dryRun { client := ⟨{}⟩ } [], rfl, ?_⟩
  rw [Git.Runner.redact_of_empty rfl]
  exact ⟨"https://".toList, "@github.com/o/n.git".toList, by decide⟩

end Backend

end PullRequestBot
