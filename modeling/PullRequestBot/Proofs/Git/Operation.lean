import PullRequestBot.Git.Client

set_option autoImplicit false

/-! # Repository operations as data

What a client can be asked to do to a repository, so that statements can range over all of it. -/

namespace PullRequestBot.Git

/-- An operation on a repository, with all that it is told. -/
inductive Operation where
  | stage (directory : String) (paths : List String) (all : Bool)
  | commit (directory text : String) (all allowsEmpty : Bool)
  | hardReset (directory target : String)
  | clone (url target : String)
  | addRemote (directory name url : String)
  | push (directory remote branch : String)
  | fetchAll (directory : String)
  | refExists (directory reference : String)
  | branchExists (directory name : String)
  | remoteExists (url : String)
  | checkout (directory branch : String) (track : Bool)
  | checkoutNew (directory branch start : String)
  | diffedFiles (directory since : String)
  | revParseHead (directory : String)

/-- What an operation gives. -/
@[reducible] def Operation.Result : Operation → Type
  | .refExists _ _ | .branchExists _ _ | .remoteExists _ => Bool
  | .diffedFiles _ _ => List String
  | .revParseHead _ => String
  | _ => Unit

/-- Carries out an operation. The looks never fail. -/
def Client.carryOut (client : Client) : (operation : Operation) → Attempt operation.Result
  | .stage directory paths all => client.stage directory paths all
  | .commit directory text all allowsEmpty => client.commit directory text all allowsEmpty
  | .hardReset directory target => client.hardReset directory target
  | .clone url target => client.clone url target
  | .addRemote directory name url => client.addRemote directory name url
  | .push directory remote branch => client.push directory remote branch
  | .fetchAll directory => client.fetchAll directory
  | .refExists directory reference => ExceptT.lift (client.refExists directory reference)
  | .branchExists directory name => ExceptT.lift (client.branchExists directory name)
  | .remoteExists url => ExceptT.lift (client.remoteExists url)
  | .checkout directory branch track => client.checkout directory branch track
  | .checkoutNew directory branch start => client.checkoutNew directory branch start
  | .diffedFiles directory since => client.diffedFiles directory since
  | .revParseHead directory => client.revParseHead directory

end PullRequestBot.Git
