import PullRequestBot.Git.Client

set_option autoImplicit false

/-! # What branching asks of a repository

The operations that bring a checkout to a new branch, as questions to whoever keeps the checkout. A
client answers them with git. -/

namespace PullRequestBot.Git.Repository

/-- What can be asked. -/
inductive Question where
  /-- Tell whoever listens of an event. -/
  | tell (event : Log.Event)
  /-- Clone into a directory. -/
  | clone (url directory : String)
  /-- Throw all changes away back to a commit. -/
  | hardReset (directory target : String)
  /-- Configure a remote. -/
  | addRemote (directory name url : String)
  /-- Fetch from every remote. -/
  | fetchAll (directory : String)
  /-- Whether a full reference name exists. -/
  | refExists (directory reference : String)
  /-- Check a branch out, or make it from a remote branch. -/
  | checkout (directory branch : String) (track : Bool)
  /-- Make a branch and check it out. -/
  | checkoutNew (directory branch start : String)
deriving DecidableEq, Repr

/-- What a question is answered with. -/
@[reducible] def Answer : Question → Type
  | .tell _ => Unit
  | .refExists _ _ => Bool
  | _ => Except Failure Unit

end Repository

/-- Answers a question about a repository with git. -/
def Client.answer (client : Client) :
    (question : Repository.Question) → Job (Repository.Answer question)
  | .tell event => Host.ask (.tell event)
  | .clone url directory => (client.clone url directory).run
  | .hardReset directory target => (client.hardReset directory target).run
  | .addRemote directory name url => (client.addRemote directory name url).run
  | .fetchAll directory => (client.fetchAll directory).run
  | .refExists directory reference => client.refExists directory reference
  | .checkout directory branch track => (client.checkout directory branch track).run
  | .checkoutNew directory branch start => (client.checkoutNew directory branch start).run

end PullRequestBot.Git
