import PullRequestBot.Calendar.Printer

set_option autoImplicit false

/-! # Remaining requests

How many requests a backend may still send: a number, with the time of the next reset where nothing is
left, or no limit, or an unknown one. -/

namespace PullRequestBot

/-- How many requests are left. -/
inductive Quota where
  /-- A number of requests; the time of the reset is looked up only when nothing is left. -/
  | finite (remaining : UInt64) (resetsAt : Option Timestamp)
  /-- There is no limit. -/
  | infinite
  /-- The limit cannot be told. -/
  | unknown
deriving DecidableEq, Repr

namespace Quota

/-- The number of requests left, where it is limited and known. -/
def remaining? : Quota → Option UInt64
  | finite remaining _ => some remaining
  | infinite | unknown => none

/-- The quota in words. -/
def text : Quota → String
  | finite remaining (some time) => s!"{remaining.toNat} (resets at {time.offsetText})"
  | finite remaining none => toString remaining.toNat
  | infinite => "infinite"
  | unknown => "unknown"

end Quota

end PullRequestBot
