import PullRequestBot.Proofs.Host.World
import PullRequestBot.Proofs.Hosting.Platform
import PullRequestBot.Proofs.Json.Written
import PullRequestBot.Text.Boundary

set_option autoImplicit false

/-! # A simulated platform

A platform that keeps a store and grants what it is asked. So the contract of a platform can be met,
whatever store it starts with (`Store.allows_simulated`). -/

namespace PullRequestBot

open Dialogue (Exchange Oracle)

/-! ## Responses -/

/-- A response with a JSON body. -/
def jsonResponse (status : Nat) (value : Json) : Http.Response where
  status := status
  body := Text.Utf8.encode (Json.compact value)

theorem jsonOf_jsonResponse (status : Nat) {value : Json} (h : Json.Plain Json.depthLimit value) :
    jsonOf (jsonResponse status value) = some value := by
  show (Text.Utf8.decode (Text.Utf8.encode (Json.compact value))).bind Json.read = _
  rw [Text.Utf8.decode_encode]
  exact Json.read_compact h

/-- An object with a single text. -/
theorem plain_single (depth : Nat) (key text : String) :
    Json.Plain (depth + 2) (.object [(key, .string text)]) :=
  .object (List.pairwise_singleton _ _) (List.forall_mem_singleton.2 (.string _ text))

theorem tells_single (status : Nat) (key text : String) :
    Tells (jsonResponse status (.object [(key, .string text)])) key text := by
  refine ⟨_, jsonOf_jsonResponse status (plain_single 126 key text), ?_⟩
  simp [Live.stringField, Json.get?, Json.lookup, Json.string?]

/-- The description of an open pull request. -/
def openPull (base head repository : String) : List (String × Json) := [
  ("base", .object [("ref", .string base), ("repo", .object [("name", .string repository)])]),
  ("head", .object [("ref", .string head)]),
  ("html_url", .string "https://platform/pulls/1"),
  ("id", .number (.natural 1)),
  ("number", .number (.natural 1)),
  ("state", .string "open")]

theorem plain_openPull (base head repository : String) :
    Json.Plain Json.depthLimit (.object (openPull base head repository)) := by
  have hbase : Json.Plain 127
      (.object [("ref", .string base), ("repo", .object [("name", .string repository)])]) :=
    .object (Json.ascending_of_keys (by decide +kernel : ["ref", "repo"].Pairwise (· < ·)))
      (by simp [Json.Plain.string, plain_single 124])
  have hhead : Json.Plain 127 (.object [("ref", .string head)]) := plain_single 125 "ref" head
  refine .object (Json.ascending_of_keys ?_) ?_
  · show ["base", "head", "html_url", "id", "number", "state"].Pairwise (· < ·)
    decide +kernel
  · simp [openPull, hbase, hhead, Json.Plain.string, Json.Plain.natural]

theorem describes_openPull (base head repository : String) :
    PullRequest.Describes (openPull base head repository) head base repository where
  id := ⟨1, rfl⟩
  number := ⟨1, rfl⟩
  htmlUrl := ⟨_, rfl⟩
  state := rfl
  head := ⟨_, rfl, rfl⟩
  base := ⟨_, _, rfl, rfl, rfl, rfl⟩
  kept := by
    have htrimmed : Keep.trimFields PullRequest.keptFields (openPull base head repository) =
        openPull base head repository := rfl
    rw [htrimmed]
    simp only [openPull, List.forall_mem_cons]
    exact ⟨rfl, rfl, rfl, rfl, rfl, rfl, nofun⟩

/-! ## The platform -/

/-- Serves a wish of the account: the response, and the store then. New forks have the given default
    branch. -/
def serve (account forkBranch : PlainText) (store : Store) : Wish → Http.Response × Store
  | .user => (jsonResponse 200 (.object [("login", .string account.val)]), store)
  | .repository owner name =>
    match store owner name with
    | some branch => (jsonResponse 200 (.object [("default_branch", .string branch.val)]), store)
    | none => (jsonResponse 404 (.object [("message", .string "Not Found")]), store)
  | .fork _ name =>
    (jsonResponse 202 (.object [("name", .string name.val)]), store.put account name forkBranch)
  | .rename owner name _ wanted =>
    (jsonResponse 201 (.object [("name", .string wanted.val)]), store.put owner name wanted)
  | .pull _ name base head =>
    (jsonResponse 201 (.object (openPull base.val head.val name.val)), store)

/-- What is served is granted. -/
theorem grants_serve (account forkBranch : PlainText) (store : Store) (wish : Wish) :
    Grants account store wish (serve account forkBranch store wish).1
      (serve account forkBranch store wish).2 := by
  cases wish with
  | user => exact ⟨rfl, rfl, tells_single _ _ _⟩
  | repository owner name =>
      cases hthere : store owner name with
      | some branch =>
          simp only [serve, Grants, hthere]
          exact ⟨trivial, rfl, tells_single _ _ _⟩
      | none =>
          simp only [serve, Grants, hthere]
          exact ⟨trivial, rfl⟩
  | fork owner name => exact fun _ => ⟨rfl, forkBranch, rfl⟩
  | rename owner name branch wanted => exact fun _ => ⟨rfl, rfl⟩
  | pull owner name base head =>
      exact fun _ => ⟨rfl, rfl, _, jsonOf_jsonResponse _ (plain_openPull _ _ _), describes_openPull _ _ _⟩

variable (site : Site) (account forkBranch : PlainText)

/-- The wish that a request below a site asks for. -/
def wishOf? (request : Http.Request) : Option Wish :=
  Wish.read? request.method
    ((Text.piecesOfString '/' request.url.path).drop (site.front.length + 1)) request.body

theorem wishOf?_of_asks {request : Http.Request} {wish : Wish} (h : Asks site request wish) :
    wishOf? site request = some wish := by
  obtain ⟨segments, hpieces, hwish⟩ := h
  have hfront : (site.front.map String.ofList).length = site.front.length := List.length_map _
  rw [wishOf?, hpieces, List.drop_succ_cons, ← hfront, List.drop_left, hwish]

namespace Store

/-- Answers a question, and what becomes of the store. -/
def simulate (store : Store) : (question : Host.Question) → Host.Answer question × Store
  | .send request _ =>
    match wishOf? site request with
    | some wish => (.ok (serve account forkBranch store wish).1, (serve account forkBranch store wish).2)
    | none => (.error .closed, store)
  | question => (nothingThere question, store)

/-- The simulated answers follow the contract. -/
theorem allows_simulate (store : Store) (question : Host.Question) :
    Store.Allows site account store ⟨question, (store.simulate site account forkBranch question).1⟩
      (store.simulate site account forkBranch question).2 := by
  cases question with
  | send request timeout =>
      intro wish hasks
      have hwish := wishOf?_of_asks site hasks
      simp only [simulate, hwish]
      exact ⟨_, rfl, grants_serve account forkBranch store wish⟩
  | _ => rfl

end Store

end PullRequestBot
