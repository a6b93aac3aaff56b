import PullRequestBot.Host.Basic
import PullRequestBot.Proofs.Dialogue.Transcript
import PullRequestBot.Text.Utf8

set_option autoImplicit false

/-! # Worlds

A world has one answer to each question, whatever was asked before. In `nothingThere` there are no files,
no variables, no executables, and nobody to reach; `worldOf` adds files and variables. -/

namespace PullRequestBot

/-- One answer to each question. -/
abbrev Host.World := (question : Host.Question) → Host.Answer question

/-- Whatever is asked in a world gets the one answer that it has there. -/
theorem answer_eq_of_world {α : Type} {world : Host.World} {past : List (Dialogue.Exchange Host.Answer)}
    {dialogue : Dialogue Host.Answer α} :
    ∀ exchange ∈ (dialogue.transcript (fun _ => world) past).1, exchange.answer = world exchange.question := by
  induction dialogue generalizing past with
  | done value => exact fun _ hmem => absurd hmem List.not_mem_nil
  | ask question next ih => exact List.forall_mem_cons.2 ⟨rfl, ih _⟩

/-- Answers to whatever is no request, of a host where there is nothing. -/
def nothingThere : Host.World
  | .tell _ => ()
  | .fileKind _ => none
  | .hasEntries _ => false
  | .makeDirectories _ => .ok ()
  | .lockFile _ => .ok ()
  | .unlockFile _ => ()
  | .readFile _ => .ok []
  | .openForAppending _ => .ok ()
  | .append _ _ => ()
  | .print _ => ()
  | .printError _ => ()
  | .environmentVariable _ => none
  | .environment => []
  | .locate _ => none
  | .run _ => .ok {}
  | .send _ _ => .error .closed
  | .now => { seconds := 0 }
  | .pause _ => ()
  | .draw => []

/-- A world with these files and environment variables, and nothing else. -/
def worldOf (files environment : List (String × String)) : Host.World
  | .fileKind path => (files.lookup path).map fun _ => .file
  | .readFile path =>
    match files.lookup path with
    | some text => .ok (Text.Utf8.encode text)
    | none => .error .noSuchFile
  | .environmentVariable name => environment.lookup name
  | .environment => environment
  | question => nothingThere question

end PullRequestBot
