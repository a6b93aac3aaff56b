import PullRequestBot.Proofs.Git.RunCourse
import PullRequestBot.Proofs.Redactor.Idempotence

set_option autoImplicit false

/-! # The id of the present commit

The id of the present commit is told exactly if git succeeds, has printed a commit id between blanks, and no
token occurs in what it has printed; anything else that git prints with success is refused
(`head_commit_is_printed`). A mask is neither a blank nor a digit: trimming does not drop it, and no commit id
holds it. So a text that was altered by masking is never taken for an id. -/

namespace PullRequestBot

/-! ## Masks in trimmed texts -/

namespace Redactor

variable {redactor : Redactor} {text : String}

/-- A text that is shown without a mask holds no token. -/
theorem hides_of_mask_not_mem (h : maskChar ∉ (redactor.redact text).toList) : redactor.Hides text := by
  rintro token htoken ⟨before, after, htext⟩
  have hpos : 0 < token.toList.length := by
    rw [List.length_pos_iff, Ne, String.toList_eq_nil_iff]
    rintro rfl
    exact redactor.nonempty htoken
  have hplace : before.length < text.toList.length := by
    rw [← htext, List.length_append, List.length_append]
    omega
  -- the first character of the occurrence is covered by it
  have hcovers : redactor.Covers text.toList before.length := by
    refine ⟨token, htoken, before.length, Nat.le_refl _, Nat.lt_add_of_pos_right hpos, ?_⟩
    rw [← htext, List.append_assoc, List.drop_left]
    exact List.prefix_append _ _
  have hshown := redactor.getElem?_masked hplace
  rw [if_pos hcovers, ← redact_toList] at hshown
  exact h (List.mem_of_getElem? hshown)

end Redactor

namespace Git

open Dialogue (Exchange Oracle)
open Host (Ran ran)

/-! ## Commit ids -/

theorem isCommitId_iff {cs : List Char} :
    isCommitId cs = true ↔ cs.length = 40 ∧ ∀ c ∈ cs, c ∈ "0123456789abcdef".toList := by
  have hdigit (c : Char) : (('0' ≤ c && c ≤ '9') || ('a' ≤ c && c ≤ 'f')) = true ↔
      c ∈ "0123456789abcdef".toList := by
    constructor
    · intro h
      have hsmall : c.toNat < 103 := by
        simp only [Bool.or_eq_true, Bool.and_eq_true, decide_eq_true_eq] at h
        rcases h with ⟨-, h⟩ | ⟨-, h⟩
        · exact Nat.lt_of_le_of_lt h (by decide)
        · exact Nat.lt_of_le_of_lt h (by decide)
      have hall : ∀ n < 103, (('0' ≤ Char.ofNat n && Char.ofNat n ≤ '9') ||
          ('a' ≤ Char.ofNat n && Char.ofNat n ≤ 'f')) = true →
            Char.ofNat n ∈ "0123456789abcdef".toList := by
        decide +kernel
      have hc := hall c.toNat hsmall
      rw [Char.ofNat_toNat] at hc
      exact hc h
    · have hall : ∀ c ∈ "0123456789abcdef".toList,
          (('0' ≤ c && c ≤ '9') || ('a' ≤ c && c ≤ 'f')) = true :=
        List.all_eq_true.1 (by decide +kernel)
      exact hall c
  simp only [isCommitId, Bool.and_eq_true, beq_iff_eq, List.all_eq_true, hdigit]

/-- A text that is a commit id once it is trimmed holds no mask. -/
theorem mask_not_mem_of_isCommitId {text : List Char} (h : isCommitId (Text.trim text) = true) :
    maskChar ∉ text := by
  intro hmem
  have hdigit := (isCommitId_iff.1 h).2 maskChar (Text.mem_trim hmem (by decide))
  exact absurd hdigit (by decide)

namespace Client

variable {client : Client} {directory id : String} {said : List (Exchange Host.Answer)}
  {outcome : Host.Outcome}

/-! ## What is made of the output -/

/-- What a process has printed. -/
def printedBy (outcome : Host.Outcome) : String :=
  Text.Utf8.decodeLossy outcome.output

/-- A process tells the id of a commit: it has succeeded, what it has printed is forty digits to base 16
    between blanks, and no token occurs in any of it. -/
structure TellsCommit (client : Client) (outcome : Host.Outcome) (id : String) : Prop where
  exited : outcome.ending = .exited 0
  trimmed : Text.trim (printedBy outcome).toList = id.toList
  length : id.toList.length = 40
  digits : ∀ c ∈ id.toList, c ∈ "0123456789abcdef".toList
  clear : ∀ token ∈ client.runner.redactor.tokens, ¬ token.toList <:+: (printedBy outcome).toList

/-- What is shown of the output: masked, then trimmed. -/
def shownOf (client : Client) (outcome : Host.Outcome) : String :=
  Text.strip (client.runner.redact (printedBy outcome))

/-- What is made of the output of a process that has succeeded. -/
def headOf (client : Client) (outcome : Host.Outcome) : Except Failure String :=
  if isCommitId (client.shownOf outcome).toList then .ok (client.shownOf outcome)
  else .error (.git (.unexpectedOutput "git rev-parse HEAD" (client.shownOf outcome)))

theorem toList_shownOf (client : Client) (outcome : Host.Outcome) :
    (client.shownOf outcome).toList =
      Text.trim (client.runner.redactor.redact (printedBy outcome)).toList := by
  rw [shownOf, Text.strip, String.toList_ofList]
  rfl

/-- What is shown is a commit id exactly if the output tells it. -/
theorem tellsCommit_iff (hexited : outcome.ending = .exited 0) :
    client.TellsCommit outcome id ↔
      isCommitId (client.shownOf outcome).toList = true ∧ client.shownOf outcome = id := by
  rw [← String.toList_inj, toList_shownOf]
  constructor
  · intro h
    rw [Redactor.redact_of_hides h.clear, h.trimmed]
    exact ⟨isCommitId_iff.2 ⟨h.length, h.digits⟩, rfl⟩
  · rintro ⟨hid, hsame⟩
    have hclear : client.runner.redactor.Hides (printedBy outcome) :=
      Redactor.hides_of_mask_not_mem (mask_not_mem_of_isCommitId hid)
    rw [Redactor.redact_of_hides hclear] at hid hsame
    obtain ⟨hlength, hdigits⟩ := isCommitId_iff.1 hid
    exact ⟨hexited, hsame, hsame ▸ hlength, hsame ▸ hdigits, hclear⟩

theorem headOf_eq_ok_iff (hexited : outcome.ending = .exited 0) :
    client.headOf outcome = .ok id ↔ client.TellsCommit outcome id := by
  rw [tellsCommit_iff hexited, headOf]
  split
  · next hid => simp [hid]
  · next hother => simp [hother]

theorem headOf_of_refused (hexited : outcome.ending = .exited 0)
    (h : ∀ id, ¬ client.TellsCommit outcome id) :
    client.headOf outcome =
      .error (.git (.unexpectedOutput "git rev-parse HEAD" (client.shownOf outcome))) := by
  refine if_neg fun hid => ?_
  exact h _ ((tellsCommit_iff hexited).2 ⟨hid, rfl⟩)

/-! ## The look for the present commit -/

/-- A process that was run for the present commit. -/
def ranForHead (directory : String) (result : Except SystemFailure Host.Outcome) : Ran :=
  ⟨["rev-parse", "HEAD"], some directory, result⟩

theorem ending_of_exitCode (h : outcome.exitCode = 0) : outcome.ending = .exited 0 := by
  unfold Host.Outcome.exitCode at h
  split at h
  · next hending => rw [hending, h]
  · exact absurd h (by decide)

/-- The look ends with what is made of the output, or git has not succeeded. -/
theorem head_of_leads {result : Except Failure String}
    (h : (client.revParseHead directory).run.Leads said result) :
    (∃ outcome, ran said = [ranForHead directory (.ok outcome)] ∧ outcome.ending = .exited 0 ∧
        result = client.headOf outcome) ∨
      (∃ failure, result = .error failure) ∧
        ∀ outcome, ran said = [ranForHead directory (.ok outcome)] → outcome.ending ≠ .exited 0 := by
  rcases Dialogue.leads_run_bind_iff.1 h with ⟨failure, rfl, hrun⟩ | ⟨before, output, after, rfl, hrun, hrest⟩
  · refine Or.inr ⟨⟨failure, rfl⟩, fun outcome hran hexited => ?_⟩
    cases Runner.course_of_leads hrun with
    | locked hnone _ _ => exact absurd (hnone.symm.trans hran) nofun
    | unstarted hone _ => exact absurd (Ran.mk.inj (List.cons.inj (hone.symm.trans hran)).1).2.2 nofun
    | refused hone hrefused =>
        obtain ⟨-, -, hsame⟩ := Ran.mk.inj (List.cons.inj (hone.symm.trans hran)).1
        obtain rfl := Except.ok.inj hsame
        exact hrefused (Or.inl (by rw [Host.Outcome.exitCode, hexited]))
  · obtain ⟨outcome, hran, hpasses, rfl⟩ := Runner.passed_of_leads hrun
    have hexited := ending_of_exitCode (hpasses.resolve_right nofun)
    have hends : ran after = [] ∧ result = client.headOf outcome := by
      have hid : Text.trim (client.runner.outputOf {} outcome).stdout.toList =
          (client.shownOf outcome).toList := (client.toList_shownOf outcome).symm
      dsimp only at hrest
      rw [hid, String.ofList_toList] at hrest
      unfold headOf
      split at hrest
      · next hother =>
        obtain ⟨rfl, rfl⟩ := Dialogue.leads_done_iff.1 hrest
        rw [if_neg (by simpa using hother)]
        exact ⟨rfl, rfl⟩
      · next hid =>
        obtain ⟨told, _, later, rfl, htold, hend⟩ := Dialogue.leads_run_lift_bind_iff.1 hrest
        obtain ⟨rfl, rfl⟩ := Dialogue.leads_done_iff.1 hend
        rw [if_pos (by simpa using hid), Host.ran_append, Runner.ran_of_isEvent Runner.always_tell htold]
        exact ⟨rfl, rfl⟩
    exact Or.inl ⟨outcome, by rw [Host.ran_append, hran, hends.1]; rfl, hexited, hends.2⟩

/-- **The id of the present commit is the one that git has printed.** Whatever the host answers, the look ends
    with an id exactly if the process tells it: it has exited with 0, the output without the blanks around it
    is the id, forty digits to base 16, and no token occurs in the output. Where a process that has exited
    with 0 tells no id, the look fails with what is shown of its output. -/
theorem head_commit_is_printed (client : Client) (directory : String) (host : Oracle Host.Answer)
    (past : List (Exchange Host.Answer)) :
    let look := (client.revParseHead directory).run.transcript host past
    (∀ id, look.2 = .ok id ↔
        ∃ outcome, ran look.1 = [ranForHead directory (.ok outcome)] ∧ client.TellsCommit outcome id) ∧
      ∀ outcome, ran look.1 = [ranForHead directory (.ok outcome)] → outcome.ending = .exited 0 →
        (∀ id, ¬ client.TellsCommit outcome id) →
          look.2 = .error (.git (.unexpectedOutput "git rev-parse HEAD" (client.shownOf outcome))) := by
  intro look
  have hlook := head_of_leads (Dialogue.leads_transcript host past (client.revParseHead directory).run)
  change (∃ outcome, ran look.1 = _ ∧ _ ∧ look.2 = _) ∨
    (∃ failure, look.2 = _) ∧ ∀ outcome, ran look.1 = _ → _
    at hlook
  have hsame {first second : Host.Outcome} (h : ran look.1 = [ranForHead directory (.ok first)])
      (h' : ran look.1 = [ranForHead directory (.ok second)]) : first = second :=
    Except.ok.inj (Ran.mk.inj (List.cons.inj (h.symm.trans h')).1).2.2
  rcases hlook with ⟨outcome, hran, hexited, hends⟩ | ⟨⟨failure, hfails⟩, hfailed⟩
  · refine ⟨fun id => ?_, fun other hother _ hnone => ?_⟩
    · rw [hends, headOf_eq_ok_iff hexited]
      constructor
      · exact fun htells => ⟨outcome, hran, htells⟩
      · rintro ⟨other, hother, htells⟩
        rwa [hsame hran hother]
    · obtain rfl := hsame hran hother
      rw [hends, headOf_of_refused hexited hnone]
  · refine ⟨fun id => ?_, fun outcome hran hexited _ => absurd hexited (hfailed outcome hran)⟩
    rw [hfails]
    refine iff_of_false nofun ?_
    rintro ⟨outcome, hran, htells⟩
    exact hfailed outcome hran htells.exited

/-- A commit id, as git prints it. -/
def printedId : Host.Outcome where
  output := "0123456789abcdef0123456789abcdef01234567\n".toUTF8.toList

/-- A world in which every process prints a commit id. -/
def printingWorld : Host.World
  | .run _ => .ok printedId
  | question => nothingThere question

/-- The case of a commit id, and that of a token which hides the line break behind it. -/
theorem hidden_line_break_is_refused :
    let look (client : Client) := (client.revParseHead "work").run.transcript (fun _ => printingWorld) []
    let breakHiding : Client := { runner := { redactor := Redactor.empty.add "\n" } }
    (look {}).2 = .ok "0123456789abcdef0123456789abcdef01234567" ∧
      (look breakHiding).2 = .error (.git
        (.unexpectedOutput "git rev-parse HEAD" "0123456789abcdef0123456789abcdef01234567*")) := by
  intro look breakHiding
  have hran (client : Client) (h : (ran (look client).1).map (fun process =>
      (process.arguments, process.directory, process.result.toOption)) =
        [(["rev-parse", "HEAD"], some "work", some printedId)]) :
      ran (look client).1 = [ranForHead "work" (.ok printedId)] := by
    obtain ⟨process, hone, hprocess⟩ := List.map_eq_singleton_iff.1 h
    obtain ⟨harguments, hdirectory, hresult⟩ := Prod.mk.inj hprocess |>.imp_right Prod.mk.inj
    rw [hone, ranForHead, ← harguments, ← hdirectory, ← Result.toOption_eq_some.1 hresult]
  have hprinted : (printedBy printedId).toList = "0123456789abcdef0123456789abcdef01234567\n".toList := by
    decide +kernel
  constructor
  · refine ((head_commit_is_printed {} "work" (fun _ => printingWorld) []).1 _).2
      ⟨printedId, hran _ (by decide +kernel), ?_⟩
    exact {
      exited := rfl
      trimmed := by rw [hprinted]; decide +kernel
      length := rfl
      digits := (isCommitId_iff.1 (by decide +kernel)).2
      clear := nofun }
  · have htoken : "\n".toList <:+: (printedBy printedId).toList := by
      rw [hprinted]
      decide +kernel
    have hnone : ∀ id, ¬ breakHiding.TellsCommit printedId id :=
      fun id htells => htells.clear "\n" (by decide) htoken
    have hshown : breakHiding.shownOf printedId = "0123456789abcdef0123456789abcdef01234567*" := by
      decide +kernel
    rw [← hshown]
    exact (head_commit_is_printed breakHiding "work" (fun _ => printingWorld) []).2 printedId
      (hran _ (by decide +kernel)) rfl
      hnone

end Client

end Git

end PullRequestBot
