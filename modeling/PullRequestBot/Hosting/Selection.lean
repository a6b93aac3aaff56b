import PullRequestBot.Hosting.Backend
import PullRequestBot.Settings.Basic

set_option autoImplicit false

/-! # The backend that the settings ask for

A dry run needs no token. The live backend does, and masks it from then on. -/

namespace PullRequestBot

open Host (tell)

namespace Backend

/-- The lock that the settings ask for. -/
def lockOf (settings : Settings) : Git.Lock :=
  match settings.lockFile with
  | some path => .file path
  | none => .none

/-- The backend that the settings ask for. -/
def ofSettings (settings : Settings) : Attempt Backend := do
  let runner ← ExceptT.lift Git.Runner.locate
  let runner := { runner with lock := lockOf settings }
  if settings.dryRun then
    ExceptT.lift <| tell .info .backend "using dry-run backend"
    return .dryRun { client := ⟨runner⟩ } []
  match ← ExceptT.lift settings.resolveToken with
  | none => Attempt.failPlatform (.missingToken settings.tokenVariable)
  | some token =>
    ExceptT.lift <|
      tell .info .backend "using GitHub backend" [("api_url", .plain settings.apiUrl)]
    return .live (Live.create token settings.apiUrl runner settings.forkTiming
      settings.requestTimeout) none

end Backend

end PullRequestBot
