set_option autoImplicit false

/-! # Git commands

Every repository operation is one git command, and `arguments` is the argument list that git is
started with. Flags stand before the texts that a caller gives. -/

namespace PullRequestBot.Git

/-- The git commands in use. -/
inductive Command where
  /-- Stage paths, or everything. -/
  | stage (paths : List String) (all : Bool)
  /-- Record a commit. -/
  | commit (text : String) (all allowsEmpty : Bool)
  /-- Throw changes away back to a commit. -/
  | hardReset (target : String)
  /-- Clone into a directory. -/
  | clone (url target : String)
  /-- List the configured remotes. -/
  | listRemotes
  /-- Configure a remote. -/
  | addRemote (name url : String)
  /-- Push a branch. -/
  | push (remote branch : String)
  /-- Fetch from every remote. -/
  | fetchAll
  /-- Look a full reference name up. -/
  | showRef (reference : String)
  /-- Ask a remote for its references. -/
  | listRefs (url : String)
  /-- Check a branch out; with tracking, make it from the remote branch. -/
  | checkout (branch : String) (track : Bool)
  /-- Make a branch and check it out. -/
  | checkoutNew (branch start : String)
  /-- List the paths changed since a commit. -/
  | diff (since : String)
  /-- Tell the present commit. -/
  | revParseHead
deriving DecidableEq, Repr

namespace Command

/-- A flag, if it is wanted. -/
def flag (wanted : Bool) (text : String) : List String :=
  if wanted then [text] else []

/-- The arguments that git is started with. -/
def arguments : Command → List String
  | stage paths all => "add" :: flag all "--all" ++ paths
  | commit text all allowsEmpty =>
    "commit" :: flag all "-a" ++ flag allowsEmpty "--allow-empty" ++ ["-m", text]
  | hardReset target => ["reset", "--quiet", "--hard", target]
  | clone url target => ["clone", "--quiet", url, target]
  | listRemotes => ["remote"]
  | addRemote name url => ["remote", "add", name, url]
  | push remote branch => ["push", remote, branch]
  | fetchAll => ["fetch", "--all", "--quiet"]
  | showRef reference => ["show-ref", "--verify", "--quiet", reference]
  | listRefs url => ["ls-remote", url]
  | checkout branch track => ["checkout", "--quiet"] ++ flag track "--track" ++ [branch]
  | checkoutNew branch start => ["checkout", "--quiet", "-b", branch, start]
  | diff since => ["diff", "--name-only", "-z", "--relative", since, "HEAD"]
  | revParseHead => ["rev-parse", "HEAD"]

end Command

end PullRequestBot.Git
