import PullRequestBot.Proofs.Git.MaskedDecisions
import PullRequestBot.Proofs.Git.RunnerSecrecy
import PullRequestBot.Proofs.Redactor.Idempotence
import PullRequestBot.Proofs.Redactor.Separators

set_option autoImplicit false

/-! # Changed paths come through

Git prints the changed paths with a NUL behind each. The runner masks that text as a whole, and the paths are
cut off it afterwards. As no token holds a NUL, it is each path that is masked (`listedPaths_masked`), and
asking for the paths one by one gives them all, in order (`changed_paths_come_through`). -/

namespace PullRequestBot.Git

open Dialogue (Exchange)
open Host (results)
open Text.Utf8 (encode decodeLossy decodeLossy_encode)

/-! ## Printed paths -/

/-- What git prints for some paths. -/
def printed (paths : List String) : String :=
  String.ofList (paths.flatMap fun path => path.toList ++ ['\x00'])

/-- A path that can be told apart from its neighbours. -/
def IsListable (path : String) : Prop :=
  path ≠ "" ∧ '\x00' ∉ path.toList

theorem listedPaths_printed {paths : List String} (h : ∀ path ∈ paths, IsListable path) :
    listedPaths (printed paths).toList = paths.map String.toList := by
  rw [printed, String.toList_ofList]
  induction paths with
  | nil => rfl
  | cons path paths ih =>
      obtain ⟨⟨hne, hnul⟩, hpaths⟩ := List.forall_mem_cons.1 h
      rw [List.flatMap_cons, List.append_assoc, List.singleton_append, listedPaths_append hnul,
        if_neg (mt String.toList_eq_nil_iff.1 hne), ih hpaths, List.map_cons]

/-- The paths are the pieces between the NULs that are not empty. -/
theorem map_listedPaths (output : String) :
    (listedPaths output.toList).map String.ofList =
      (Text.piecesOfString '\x00' output).filter fun piece => piece ≠ "" := by
  rw [Text.piecesOfString, List.filter_map, listedPaths]
  refine congrArg (List.map _) (List.filter_congr fun piece _ => ?_)
  rw [Function.comp_apply, Bool.eq_iff_iff]
  simp only [Bool.not_eq_true', List.isEmpty_eq_false_iff, ne_eq, String.ofList_eq_empty_iff,
    decide_eq_true_eq]

/-- **The paths in a masked text are the masked paths.** -/
theorem listedPaths_masked {redactor : Redactor} (h : redactor.Spares '\x00') (output : List Char) :
    listedPaths (redactor.masked output) = (listedPaths output).map redactor.masked := by
  rw [listedPaths, listedPaths, Redactor.pieces_masked (by decide) h, List.filter_map]
  refine congrArg (List.map _) (List.filter_congr fun piece _ => ?_)
  have hempty : redactor.masked piece = [] ↔ piece = [] := Redactor.masked_eq_nil_iff
  rw [Function.comp_apply, Bool.eq_iff_iff]
  simp only [Bool.not_eq_true', List.isEmpty_eq_false_iff, ne_eq, hempty]

/-! ## Reading to the end -/

namespace Listing

/-- Asking for the paths one by one gives these, and then none for ever. -/
def Yields (listing : Listing) (paths : List String) : Prop :=
  ∀ n, (listing.after n).next.1 = paths[n]?

theorem yields_ofText (output : String) :
    (ofText output).Yields ((listedPaths output.toList).map String.ofList) := by
  intro n
  rw [next_after, left_ofText]

/-- Asking for the paths that were printed and masked gives each of them masked. -/
theorem yields_redact_printed {redactor : Redactor} (htokens : redactor.Spares '\x00')
    {paths : List String} (hpaths : ∀ path ∈ paths, IsListable path) :
    (ofText (redactor.redact (printed paths))).Yields (paths.map redactor.redact) := by
  have hyields := yields_ofText (redactor.redact (printed paths))
  rw [Redactor.redact_toList, listedPaths_masked htokens, listedPaths_printed hpaths, List.map_map,
    List.map_map] at hyields
  have hmasked : paths.map ((String.ofList ∘ redactor.masked) ∘ String.toList) =
      paths.map redactor.redact :=
    List.map_congr_left fun path _ => (redactor.redact_eq path).symm
  exact hmasked ▸ hyields

/-- Each path is read in view of the place where the one before it ended, and no cut goes through a
    character. -/
theorem read?_after (listing : Listing) (n : Nat) :
    read? listing.output (listing.after n).place =
      some ((listing.after n).next.1, (listing.after (n + 1)).place) := by
  rw [← listing.output_after n]
  exact (listing.after n).read?_eq

end Listing

/-! ## Running git -/

/-- Where git has run and its exit code is accepted, the run ends with the masked outputs. -/
theorem Runner.ok_of_passes {runner : Runner} {arguments : List String} {directory : Option String}
    {options : RunOptions} {said : List (Exchange Host.Answer)} {result : Except Failure Output}
    {outcome : Host.Outcome} (hleads : (runner.run arguments directory options).run.Leads said result)
    (houtcome : (results said).head? = some (.ok outcome)) (hpasses : Passes options outcome) :
    result = .ok (runner.outputOf options outcome) := by
  obtain ⟨_, hends⟩ :=
    (runner.alike_run runner.redactor runner.redactor arguments directory options).leads hleads
  generalize results said = ended at *
  cases hends with
  | passed _ =>
      obtain rfl := Except.ok.inj (Option.some.inj houtcome)
      rfl
  | refused hrefused _ =>
      obtain rfl := Except.ok.inj (Option.some.inj houtcome)
      exact absurd hpasses hrefused
  | unstarted hunstarted _ => exact absurd houtcome (hunstarted outcome)

namespace Client

variable {client : Client} {directory since : String}

/-- The listing is of what git printed, masked. -/
theorem listChanges_ok {said : List (Exchange Host.Answer)} {result : Except Failure Listing}
    {outcome : Host.Outcome} (hleads : (client.listChanges directory since).run.Leads said result)
    (houtcome : (results said).head? = some (.ok outcome)) (hexit : outcome.exitCode = 0) :
    result = .ok (.ofText (client.runner.redact (decodeLossy outcome.output))) := by
  obtain ⟨middle, hrun, rfl⟩ := Dialogue.leads_run_bind_pure_iff.1 hleads
  rw [Runner.ok_of_passes hrun houtcome (Or.inl hexit)]
  rfl

/-- **Changed paths come through the masking and the cutting.** Where no token holds a NUL, and git prints
    paths that are not empty and hold no NUL, each with a NUL behind it, asking for the changed paths gives
    the masked paths, one for each and in the same order, and then none for ever; where no token occurs in
    them, these are the paths themselves. Of any text, reading always has a result, so that no character is
    cut through, and gives the pieces between the NULs that are not empty, in order. -/
theorem changed_paths_come_through (client : Client) (directory since : String) :
    (∀ (paths : List String) (outcome : Host.Outcome) (said : List (Exchange Host.Answer))
      (result : Except Failure Listing),
      (∀ token ∈ client.runner.redactor.tokens, '\x00' ∉ token.toList) →
      (∀ path ∈ paths, path ≠ "" ∧ '\x00' ∉ path.toList) →
      (client.listChanges directory since).run.Leads said result →
      (results said).head? = some (.ok outcome) →
      outcome.exitCode = 0 → outcome.output = encode (printed paths) →
      ∃ listing, result = .ok listing ∧
        listing.Yields (paths.map client.runner.redact) ∧
        ((∀ path ∈ paths, client.runner.redactor.Hides path) → listing.Yields paths)) ∧
    ∀ output : String,
      let listing := Listing.ofText output
      let pieces := (Text.piecesOfString '\x00' output).filter fun piece => piece ≠ ""
      listing.Yields pieces ∧ listing.paths = pieces ∧
        ∀ n, Listing.read? output (listing.after n).place =
          some (pieces[n]?, (listing.after (n + 1)).place) := by
  constructor
  · intro paths outcome said result htokens hpaths hleads houtcome hexit houtput
    have hyields := Listing.yields_redact_printed htokens hpaths
    have hok := listChanges_ok hleads houtcome hexit
    rw [houtput, decodeLossy_encode] at hok
    refine ⟨_, hok, hyields, fun hclear => ?_⟩
    have hsame : paths.map client.runner.redactor.redact = paths.map id :=
      List.map_congr_left fun path hpath => Redactor.redact_of_hides (hclear path hpath)
    rw [hsame, List.map_id] at hyields
    exact hyields
  · intro output listing pieces
    have hyields := Listing.yields_ofText output
    have hpaths := (Listing.ofText output).paths_eq
    rw [Listing.left_ofText] at hpaths
    rw [map_listedPaths] at hyields hpaths
    refine ⟨hyields, hpaths, fun n => ?_⟩
    rw [← hyields n]
    exact listing.read?_after n

/-- The case of a path with a line feed in it and one that holds a token, and that of paths without it. -/
theorem unusual_paths_come_through :
    let client : Client := { runner := { redactor := Redactor.empty.add "s3cr3t" } }
    let listed (paths : List String) : Except Failure Listing :=
      ((client.listChanges "." "HEAD~1").run.transcript
        (Runner.processHost { output := encode (printed paths) }) []).2
    (∃ listing, listed ["new\nline.md", "s3cr3t/é.md"] = .ok listing ∧
      listing.Yields ["new\nline.md", "******/é.md"]) ∧
      ∃ listing, listed ["new\nline.md", "tab\t.md"] = .ok listing ∧
        listing.Yields ["new\nline.md", "tab\t.md"] := by
  intro client listed
  have hresults (outcome : Host.Outcome) : (results ((client.listChanges "." "HEAD~1").run.transcript
      (Runner.processHost outcome) []).1).head? = some (.ok outcome) := rfl
  have hcome (paths : List String) (hpaths : ∀ path ∈ paths, path ≠ "" ∧ '\x00' ∉ path.toList) :=
    (changed_paths_come_through client "." "HEAD~1").1 paths { output := encode (printed paths) } _
      (listed paths) (by decide) hpaths (Dialogue.leads_transcript _ _ _) (hresults _) rfl rfl
  constructor
  · obtain ⟨listing, hlisted, hyields, -⟩ := hcome ["new\nline.md", "s3cr3t/é.md"] (by decide +kernel)
    have hmasked : ["new\nline.md", "s3cr3t/é.md"].map client.runner.redact =
        ["new\nline.md", "******/é.md"] := by
      simp only [List.map_cons, List.map_nil, Runner.redact, Redactor.redact_eq]
      decide +kernel
    exact ⟨listing, hlisted, hmasked ▸ hyields⟩
  · obtain ⟨listing, hlisted, -, hyields⟩ := hcome ["new\nline.md", "tab\t.md"] (by decide +kernel)
    have hclear : ∀ path ∈ ["new\nline.md", "tab\t.md"], ∀ token ∈ client.runner.redactor.tokens,
        ¬ token.toList <:+: path.toList := by decide +kernel
    exact ⟨listing, hlisted, hyields hclear⟩

end Client

end PullRequestBot.Git
