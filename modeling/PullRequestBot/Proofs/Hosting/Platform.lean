import PullRequestBot.Proofs.Dialogue.Stateful
import PullRequestBot.Proofs.Hosting.Call
import PullRequestBot.Proofs.Hosting.PullRequest.Reading
import PullRequestBot.Proofs.Hosting.Site

set_option autoImplicit false

/-! # The platform as a store of repositories

The platform keeps a store: which repositories can be seen, and what their default branches are. A
request asks something of it (`Asks`), and `Grants` is the contract of its answers: what each wish is
answered with, and what it does to the store. -/

namespace PullRequestBot

open Dialogue (Exchange)

/-! ## Stores -/

/-- The visible repositories by owner and name, each with its default branch. -/
abbrev Store := PlainText → PlainText → Option PlainText

namespace Store

/-- A store with a repository put in, or with another default branch. -/
def put (store : Store) (owner name branch : PlainText) : Store :=
  fun owner' name' => if owner' = owner ∧ name' = name then some branch else store owner' name'

variable {store : Store} {owner name owner' name' branch branch' : PlainText}

@[simp] theorem put_self : store.put owner name branch owner name = some branch :=
  if_pos ⟨rfl, rfl⟩

theorem put_of_ne (h : ¬ (owner' = owner ∧ name' = name)) :
    store.put owner name branch owner' name' = store owner' name' :=
  if_neg h

@[simp] theorem put_put : (store.put owner name branch).put owner name branch' =
    store.put owner name branch' := by
  funext owner' name'
  by_cases h : owner' = owner ∧ name' = name
  · obtain ⟨rfl, rfl⟩ := h
    rw [put_self, put_self]
  · rw [put_of_ne h, put_of_ne h, put_of_ne h]

/-- A repository that has a branch keeps it where another one is put in with it. -/
theorem put_of_there (h : store owner name = some branch) :
    store.put owner' name' branch owner name = some branch := by
  by_cases heq : owner = owner' ∧ name = name'
  · exact if_pos heq
  · rw [put_of_ne heq, h]

theorem put_eq_self (h : store owner name = some branch) : store.put owner name branch = store := by
  funext owner' name'
  by_cases heq : owner' = owner ∧ name' = name
  · obtain ⟨rfl, rfl⟩ := heq
    rw [put_self, h]
  · rw [put_of_ne heq]

end Store

/-! ## Wishes -/

/-- What a request asks of the platform. -/
inductive Wish where
  | user
  | repository (owner name : PlainText)
  | fork (owner name : PlainText)
  | rename (owner name branch wanted : PlainText)
  /-- A pull request into a branch of a repository, from a branch of the account. -/
  | pull (owner name base head : PlainText)

namespace Wish

/-- What follows the first colon of a text. -/
def afterColon (text : String) : String :=
  match Text.cutString ':' text with
  | some (_, back) => back
  | none => text

/-- The wish of a request, by its method, the segments of its path and its body. -/
def read? (method : Http.Method) (segments : List String) (body : Option Json) : Option Wish :=
  match method, segments, body with
  | .get, ["user"], _ => some .user
  | .get, ["repos", owner, name], _ => do
    return .repository (← PlainText.read? owner) (← PlainText.read? name)
  | .post, ["repos", owner, name, "forks"], _ => do
    return .fork (← PlainText.read? owner) (← PlainText.read? name)
  | .post, ["repos", owner, name, "branches", branch, "rename"], some value => do
    let wanted ← Live.stringField value "new_name"
    return .rename (← PlainText.read? owner) (← PlainText.read? name) (← PlainText.read? branch)
      (← PlainText.read? wanted)
  | .post, ["repos", owner, name, "pulls"], some value => do
    let base ← Live.stringField value "base"
    let head ← Live.stringField value "head"
    return .pull (← PlainText.read? owner) (← PlainText.read? name) (← PlainText.read? base)
      (← PlainText.read? (afterColon head))
  | _, _, _ => none

end Wish

/-- A request below a site asks something of the platform. -/
def Asks (site : Site) (request : Http.Request) (wish : Wish) : Prop :=
  ∃ segments, Text.piecesOfString '/' request.url.path =
      "" :: (site.front.map String.ofList ++ segments) ∧
    Wish.read? request.method segments request.body = some wish

/-! ## The contract -/

/-- The JSON in the body of a response. -/
def jsonOf (response : Http.Response) : Option Json :=
  (Text.Utf8.decode response.body).bind Json.read

/-- The body of a response is JSON that tells a text by a key. -/
def Tells (response : Http.Response) (key text : String) : Prop :=
  ∃ value, jsonOf response = some value ∧ Live.stringField value key = some text

/-- What the platform answers to a wish of the account, and what becomes of the store. -/
def Grants (account : PlainText) (before : Store) : Wish → Http.Response → Store → Prop
  | .user, response, after =>
    after = before ∧ response.status = 200 ∧ Tells response "login" account.val
  | .repository owner name, response, after =>
    after = before ∧
      match before owner name with
      | some branch => response.status = 200 ∧ Tells response "default_branch" branch.val
      | none => response.status = 404
  -- a fork may have any default branch, and it can be seen at once
  | .fork owner name, response, after =>
    before owner name ≠ none →
      response.isSuccess = true ∧ ∃ branch, after = before.put account name branch
  | .rename owner name branch wanted, response, after =>
    before owner name = some branch →
      response.isSuccess = true ∧ after = before.put owner name wanted
  | .pull owner name base head, response, after =>
    before owner name ≠ none →
      after = before ∧ response.status = 201 ∧ ∃ fields, jsonOf response = some (.object fields) ∧
        PullRequest.Describes fields head.val base.val name.val

/-- The platform answers every request, and grants what it asks. Nothing else changes the store. -/
def Store.Allows (site : Site) (account : PlainText) (before : Store) (said : Exchange Host.Answer)
    (after : Store) : Prop :=
  match said with
  | ⟨.send request _, answer⟩ => ∀ wish, Asks site request wish →
    ∃ response, answer = .ok response ∧ Grants account before wish response after
  | _ => after = before

end PullRequestBot
