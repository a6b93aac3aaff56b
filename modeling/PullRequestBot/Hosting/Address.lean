import PullRequestBot.Text.Split

set_option autoImplicit false

/-! # Repositories and their addresses

A repository is named by its owner and its name, written `OWNER/NAME`. Git reaches it over https, with
or without a token in the address. -/

namespace PullRequestBot

/-- A repository on the hosting platform. -/
structure RepositoryName where
  owner : String
  name : String
deriving DecidableEq, Repr

namespace RepositoryName

/-- The written form. -/
def text (repository : RepositoryName) : String :=
  s!"{repository.owner}/{repository.name}"

/-- Reads `OWNER/NAME`: two texts that are not empty around the only slash. -/
def read? (text : String) : Option RepositoryName :=
  match Text.cutString '/' text with
  | some (owner, name) =>
    if owner = "" ∨ name = "" ∨ name.toList.contains '/' then none else some ⟨owner, name⟩
  | none => none

/-- What is wrong with a text that names no repository. -/
def failureMessage (text : String) : String :=
  s!"expected OWNER/NAME, got '{text}'"

end RepositoryName

/-! ## Addresses for git -/

/-- How git shows who it is. -/
inductive ConnectionMode where
  /-- Not at all. -/
  | anonymous
  /-- By a token in the address, which then has to be masked. -/
  | withToken
deriving DecidableEq, Repr

/-- The host of all repositories. -/
def platformHost : String := "github.com"

/-- The address of a repository for git. Without a token there is nothing to show. -/
def remoteUrl (owner name : String) (mode : ConnectionMode) (token : Option String) : String :=
  match mode, token with
  | .withToken, some token => s!"https://{token}@{platformHost}/{owner}/{name}.git"
  | _, _ => s!"https://{platformHost}/{owner}/{name}.git"

/-- The address of a repository for an anonymous git. -/
def publicUrl (owner name : String) : String :=
  remoteUrl owner name .anonymous none

end PullRequestBot
