import PullRequestBot.Host.Basic
import PullRequestBot.Host.Path
import PullRequestBot.Text.Quoted

set_option autoImplicit false

/-! # Command locks

Git commands may be kept from running at the same time. `none` never waits. `file` waits for the
exclusive lock on a file, which is made when it is missing, together with the directories above it;
all processes that name the same file exclude each other. -/

namespace PullRequestBot.Git

/-- What git commands wait for. -/
inductive Lock where
  | none
  | file (path : String)
deriving DecidableEq, Repr

namespace Lock

open Host (ask)

/-- The failure to acquire the lock on a file. -/
def failed {α : Type} (path : String) (cause : SystemFailure) : Attempt α :=
  Attempt.failGit (.lock path cause)

/-- Asks for something that the lock on a file needs. -/
def need (path : String) (job : Job (Except SystemFailure Unit)) : Attempt Unit := do
  if let .error cause ← job then failed path cause

/-- Waits until the lock is held. -/
def acquire : Lock → Attempt Unit
  | none => pure ()
  | file path => do
    let above := (Path.parent path).getD ""
    if above ≠ "" then need path (ask (.makeDirectories above))
    need path (ask (.lockFile path))

/-- Gives the lock back. -/
def release : Lock → Job Unit
  | none => pure ()
  | file path => ask (.unlockFile path)

/-- The path of the lock file. -/
def path? : Lock → Option String
  | none => Option.none
  | file path => some path

/-- What may be shown of a lock. -/
def description : Lock → String
  | none => "NoopLock"
  | file path => s!"FileLock \x7b path: {Text.quotePath path} \x7d"

end Lock

end PullRequestBot.Git
