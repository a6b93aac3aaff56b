import PullRequestBot.Proofs.Hosting.Login
import PullRequestBot.Proofs.Hosting.Platform

set_option autoImplicit false

/-! # What the live backend does to a store

On a platform that keeps a store, each helper of the live backend that makes one call has one effect on the
store and one value, unless the address of that very request is too long (`Does`). For the operations this
is `Acts`, which follows the structure of an operation: opening a pull request, for one, gives a record of
what was asked for (`acts_createPullRequest`). -/

namespace PullRequestBot

open Dialogue (Evolves)

/-! ## Calls -/

namespace PlainText

def repos : PlainText := ⟨"repos", by decide +kernel⟩

def user : PlainText := ⟨"user", by decide +kernel⟩

def forks : PlainText := ⟨"forks", by decide +kernel⟩

def branches : PlainText := ⟨"branches", by decide +kernel⟩

def rename : PlainText := ⟨"rename", by decide +kernel⟩

def pulls : PlainText := ⟨"pulls", by decide +kernel⟩

end PlainText

namespace Live

variable {α β : Type} {live : Live} {site : Site} {account owner name : PlainText}
  {before after : Store} {texts : List PlainText} {method : Http.Method} {body : Option Json}
  {wish : Wish}

/-- The call for a path of plain texts. -/
def callAt (method : Http.Method) (texts : List PlainText) (body : Option Json) : Call :=
  ⟨method, Segments.text (PlainText.segments texts), body⟩

/-- The path of texts, character by character. -/
theorem toList_textPath (texts : List PlainText) :
    (Segments.text (PlainText.segments texts)).toList =
      texts.flatMap fun text => '/' :: text.val.toList := by
  rw [Segments.text_eq, String.toList_ofList, Segments.pathOf, PlainText.segments, List.flatMap_map]

theorem repositoryPath_eq (owner name : PlainText) :
    repositoryPath owner.val name.val = Segments.text (PlainText.segments [.repos, owner, name]) := by
  refine String.toList_inj.1 ?_
  rw [toList_textPath]
  simp [toString, repositoryPath]
  rfl

theorem lookAt_eq (owner name : PlainText) :
    lookAt owner.val name.val = callAt .get [.repos, owner, name] none := by
  rw [lookAt, callAt, repositoryPath_eq]

theorem forksPath_eq (owner name : PlainText) :
    s!"{repositoryPath owner.val name.val}/forks" =
      Segments.text (PlainText.segments [.repos, owner, name, .forks]) := by
  refine String.toList_inj.1 ?_
  rw [repositoryPath_eq, toList_textPath]
  simp [toString, toList_textPath]
  rfl

theorem renamePath_eq (owner name branch : PlainText) :
    s!"{repositoryPath owner.val name.val}/branches/{branch.val}/rename" =
      Segments.text (PlainText.segments [.repos, owner, name, .branches, branch, .rename]) := by
  refine String.toList_inj.1 ?_
  rw [repositoryPath_eq, toList_textPath]
  simp [toString, toList_textPath]
  rfl

theorem pullsPath_eq (owner name : PlainText) :
    s!"{repositoryPath owner.val name.val}/pulls" =
      Segments.text (PlainText.segments [.repos, owner, name, .pulls]) := by
  refine String.toList_inj.1 ?_
  rw [repositoryPath_eq, toList_textPath]
  simp [toString, toList_textPath]
  rfl

/-- A request for a path of plain texts asks for what these texts and its body mean. -/
theorem asks_requestBelow (h : Wish.read? method (texts.map Subtype.val) body = some wish) :
    Asks site (live.requestBelow site method (PlainText.segments texts) body) wish := by
  refine ⟨texts.map Subtype.val, ?_, h⟩
  have hpath : (live.requestBelow site method (PlainText.segments texts) body).url.path =
      Segments.text (site.front ++ PlainText.segments texts) :=
    (urlBelow_facts site _).2.1
  have hplain := site.plain_below (PlainText.isPlain_segments texts)
  rw [hpath, Text.piecesOfString, Segments.text_eq, String.toList_ofList, Segments.pieces_pathOf hplain]
  simp [PlainText.segments]

/-- What comes of a call on a platform that keeps a store. -/
theorem Sent.granted {said : List Said} {reply : Reply} (hlive : live.IsAt site) (hne : texts ≠ [])
    (hwish : Wish.read? method (texts.map Subtype.val) body = some wish)
    (h : live.Sent (callAt method texts body) said reply)
    (hevolves : Evolves (Store.Allows site account) before said after) :
    (¬ Fits site (PlainText.segments texts) ∧ after = before ∧
        reply = .error (tooLong site (PlainText.segments texts))) ∨
      (Fits site (PlainText.segments texts) ∧
        ∃ received, reply = .ok received ∧ Grants account before wish received.response after) := by
  have hsegments : PlainText.segments texts ≠ [] := fun hnil => hne (List.map_eq_nil_iff.1 hnil)
  have hrequest := request_below hlive method hsegments (PlainText.isPlain_segments texts) body
  by_cases hfits : Fits site (PlainText.segments texts)
  · rw [if_pos hfits] at hrequest
    obtain ⟨answer, rfl, rfl⟩ := h.of_built hrequest
    cases hevolves with
    | cons hallows hrest =>
        cases hrest
        obtain ⟨response, rfl, hgrants⟩ := hallows wish (asks_requestBelow hwish)
        exact Or.inr ⟨hfits, _, rfl, hgrants⟩
  · rw [if_neg hfits] at hrequest
    obtain ⟨rfl, rfl⟩ := h.of_unbuilt hrequest
    cases hevolves
    exact Or.inl ⟨hfits, rfl, rfl⟩

/-- Nothing is sent where the address is too long. -/
theorem send_of_not_fits (hlive : live.IsAt site) (hne : texts ≠ [])
    (h : ¬ Fits site (PlainText.segments texts)) :
    live.send method (Segments.text (PlainText.segments texts)) body =
      Attempt.failPlatform (.request (tooLong site (PlainText.segments texts))) := by
  have hsegments : PlainText.segments texts ≠ [] := fun hnil => hne (List.map_eq_nil_iff.1 hnil)
  have hrequest := request_below hlive method hsegments (PlainText.isPlain_segments texts) body
  rw [if_neg h] at hrequest
  unfold send exchange
  rw [hrequest]
  rfl

/-- Only requests change a store. -/
theorem evolves_sent {said : List Said}
    (h : Evolves (Store.Allows site account) before said after) :
    Evolves (Store.Allows site account) before (sent said) after := by
  induction h with
  | nil state => exact .nil state
  | @cons before middle after exchange later hallows _ ih =>
      obtain ⟨question, answer⟩ := exchange
      cases question with
      | send request timeout => exact .cons hallows ih
      | _ =>
          obtain rfl : middle = before := hallows
          exact ih

/-! ## Effects of attempts -/

/-- The failure of something that needs a request for one of the paths, whose address is too long to be
    sent. -/
def IsTooLongAmong (site : Site) (paths : List (List PlainText)) (failure : Failure) : Prop :=
  ∃ texts ∈ paths, ¬ Fits site (PlainText.segments texts) ∧
    failure = .platform (.request (tooLong site (PlainText.segments texts)))

/-- A value and a store that satisfy an assertion, or a failure since the address of a request for one of
    the paths is too long. Which paths these are may depend on the store. -/
def Achieves (site : Site) (paths : Store → List (List PlainText)) (achieved : α → Store → Prop) :
    Except Failure α → Store → Prop
  | .ok value, after => achieved value after
  | .error failure, after => IsTooLongAmong site (paths after) failure

/-- From the given store on, an attempt ends with a value and a store that satisfy an assertion, unless
    the address of a request for one of the paths is too long. -/
structure Does (site : Site) (account : PlainText) (paths : Store → List (List PlainText)) (before : Store)
    (achieved : α → Store → Prop) (attempt : Attempt α) : Prop where
  keeps : attempt.run.Keeps (Store.Allows site account) (fun _ => True) (Achieves site paths achieved)
    before

variable {paths : Store → List (List PlainText)} {achieved : α → Store → Prop}

theorem does_of_leads {attempt : Attempt α}
    (h : ∀ said result after, attempt.run.Leads said result →
      Evolves (Store.Allows site account) before said after → Achieves site paths achieved result after) :
    Does site account paths before achieved attempt :=
  ⟨Dialogue.keeps_of_leads h⟩

/-- The effect of an attempt that makes one call, by what the platform grants. -/
theorem Judges.does {verdict : Received → Except Failure α} {attempt : Attempt α}
    (h : live.Judges (callAt method texts body) verdict attempt) (hlive : live.IsAt site)
    (hne : texts ≠ []) (hpath : ∀ store, texts ∈ paths store)
    (hwish : Wish.read? method (texts.map Subtype.val) body = some wish)
    (hgranted : ∀ received after, Grants account before wish received.response after →
      ∃ value, verdict received = .ok value ∧ achieved value after) :
    Does site account paths before achieved attempt := by
  refine does_of_leads fun said result after hleads hevolves => ?_
  obtain ⟨reply, hsent, rfl⟩ := h said result hleads
  rcases hsent.granted hlive hne hwish (evolves_sent hevolves) with
    ⟨hfits, rfl, rfl⟩ | ⟨-, received, rfl, hgrants⟩
  · exact ⟨texts, hpath after, hfits, rfl⟩
  · obtain ⟨value, hvalue, hachieved⟩ := hgranted received after hgrants
    show Achieves site paths achieved (verdict received) after
    rw [hvalue]
    exact hachieved

/-! ## Verdicts on what the platform tells -/

variable {received : Received} {action : String}

theorem isSuccess_of_status (h : received.response.status = 200) :
    received.response.isSuccess = true := by
  rw [Http.Response.isSuccess, h]
  rfl

theorem jsonIn_of_jsonOf {value : Json} (h : jsonOf received.response = some value) :
    jsonIn action received = .ok value := by
  unfold jsonIn bodyJson
  unfold jsonOf at h
  rw [h]

theorem description_of_status {value : Json} (owner name : String)
    (hstatus : received.response.status = 200) (h : jsonOf received.response = some value) :
    description owner name received = .ok value := by
  rw [description, if_neg (by rw [hstatus]; decide), if_pos (isSuccess_of_status hstatus)]
  exact jsonIn_of_jsonOf h

theorem branchIn_of_tells {branch : String} (owner name : String)
    (hstatus : received.response.status = 200) (h : Tells received.response "default_branch" branch) :
    branchIn owner name received = .ok branch := by
  obtain ⟨value, hvalue, hbranch⟩ := h
  rw [branchIn, description_of_status owner name hstatus hvalue]
  dsimp only [bind, Except.bind]
  rw [hbranch]

theorem loginIn_of_tells {login : String} (hstatus : received.response.status = 200)
    (h : Tells received.response "login" login) : loginIn received = .ok login := by
  obtain ⟨value, hvalue, hlogin⟩ := h
  rw [loginIn, accepted, if_pos (isSuccess_of_status hstatus), jsonIn_of_jsonOf hvalue]
  dsimp only [bind, Except.bind]
  rw [hlogin]

/-! ## Verdicts on what is granted -/

variable {branch : PlainText}

theorem loginIn_of_grants (h : Grants account before .user received.response after) :
    after = before ∧ loginIn received = .ok account.val :=
  ⟨h.1, loginIn_of_tells h.2.1 h.2.2⟩

/-- A look at a repository tells whether it is there. -/
theorem presence_of_grants (h : Grants account before (.repository owner name) received.response after) :
    after = before ∧ presence owner.val name.val received = .ok (before owner name).isSome := by
  obtain ⟨rfl, hanswer⟩ := h
  refine ⟨rfl, ?_⟩
  unfold presence
  cases hthere : after owner name with
  | none =>
      rw [hthere] at hanswer
      exact if_pos hanswer
  | some branch =>
      rw [hthere] at hanswer
      rw [if_neg (by rw [hanswer.1]; decide), if_pos (isSuccess_of_status hanswer.1)]
      rfl

theorem description_of_missing
    (h : Grants account before (.repository owner name) received.response after)
    (hmissing : before owner name = none) :
    description owner.val name.val received =
      .error (.platform (.repositoryNotFound owner.val name.val)) := by
  obtain ⟨-, hanswer⟩ := h
  rw [hmissing] at hanswer
  exact if_pos hanswer

theorem description_of_there
    (h : Grants account before (.repository owner name) received.response after)
    (hthere : before owner name = some branch) :
    ∃ value, description owner.val name.val received = .ok value := by
  obtain ⟨-, hanswer⟩ := h
  rw [hthere] at hanswer
  obtain ⟨hstatus, value, hvalue, -⟩ := hanswer
  exact ⟨value, description_of_status _ _ hstatus hvalue⟩

theorem branchIn_of_there
    (h : Grants account before (.repository owner name) received.response after)
    (hthere : before owner name = some branch) :
    branchIn owner.val name.val received = .ok branch.val := by
  obtain ⟨-, hanswer⟩ := h
  rw [hthere] at hanswer
  exact branchIn_of_tells _ _ hanswer.1 hanswer.2

/-! ## Effects of the helpers -/

theorem wish_user (body : Option Json) :
    Wish.read? .get ([PlainText.user].map Subtype.val) body = some .user := rfl

theorem wish_lookAt (owner name : PlainText) (body : Option Json) :
    Wish.read? .get ([PlainText.repos, owner, name].map Subtype.val) body =
      some (.repository owner name) := by
  show (do return Wish.repository (← PlainText.read? owner.val) (← PlainText.read? name.val)) = _
  rw [PlainText.read?_val, PlainText.read?_val]
  rfl

theorem does_checkRepository (hlive : live.IsAt site) (hpath : ∀ store, [.repos, owner, name] ∈ paths store)
    (before : Store) :
    Does site account paths before (fun present after => after = before ∧
      present = (before owner name).isSome) (live.checkRepository owner.val name.val) := by
  have hjudges := live.judges_checkRepository owner.val name.val
  rw [lookAt_eq] at hjudges
  refine hjudges.does hlive nofun hpath (wish_lookAt owner name none) fun received after hgrants => ?_
  obtain ⟨rfl, hpresence⟩ := presence_of_grants hgrants
  exact ⟨_, hpresence, rfl, rfl⟩

theorem does_repository (hlive : live.IsAt site) (hpath : ∀ store, [.repos, owner, name] ∈ paths store)
    (h : before owner name = some branch) :
    Does site account paths before (fun _ after => after = before)
      (live.repository owner.val name.val) := by
  have hjudges := live.judges_repository owner.val name.val
  rw [lookAt_eq] at hjudges
  refine hjudges.does hlive nofun hpath (wish_lookAt owner name none) fun received after hgrants => ?_
  obtain ⟨value, hvalue⟩ := description_of_there hgrants h
  exact ⟨value, hvalue, hgrants.1⟩

theorem askUser_eq : askUser = callAt .get [.user] none := rfl

theorem does_fetchLogin (hlive : live.IsAt site) (hpath : ∀ store, [.user] ∈ paths store) (before : Store) :
    Does site account paths before (fun login after => after = before ∧ login = account.val)
      live.fetchLogin := by
  have hjudges := live.judges_fetchLogin
  rw [askUser_eq] at hjudges
  refine hjudges.does hlive nofun hpath (wish_user none) fun received after hgrants => ?_
  obtain ⟨hafter, hlogin⟩ := loginIn_of_grants hgrants
  exact ⟨account.val, hlogin, hafter, rfl⟩

/-! ## Opening a pull request -/

variable {base head : PlainText}

/-- A pull request that is open and says what was asked for. -/
structure Echoes (owner name base head : PlainText) (title body : String) (pull : PullRequest) : Prop where
  owner : pull.owner = owner.val
  repo : pull.repo = name.val
  title : pull.title = title
  body : pull.body = some body
  state : pull.state = .opened
  head : pull.head.branch = head.val
  base : pull.base.branch = base.val
  repository : pull.base.repository = some name.val

/-- Without a colon in the account, the head of a pull request begins behind the first one. -/
theorem afterColon_head (hcolon : ':' ∉ account.val.toList) (head : PlainText) :
    Wish.afterColon s!"{account.val}:{head.val}" = head.val := by
  have hchars : (s!"{account.val}:{head.val}").toList = account.val.toList ++ ':' :: head.val.toList := by
    simp [toString]
  rw [Wish.afterColon, Text.cutString, hchars, Text.cut_append hcolon]
  exact String.ofList_toList

theorem wish_pull (hcolon : ':' ∉ account.val.toList) (owner name base head : PlainText)
    (title body : String) :
    Wish.read? .post ([PlainText.repos, owner, name, .pulls].map Subtype.val)
      (some (.object [("base", .string base.val), ("body", .string body),
        ("head", .string s!"{account.val}:{head.val}"), ("title", .string title)])) =
      some (.pull owner name base head) := by
  show (do
    return Wish.pull (← PlainText.read? owner.val) (← PlainText.read? name.val)
      (← PlainText.read? base.val)
      (← PlainText.read? (Wish.afterColon s!"{account.val}:{head.val}"))) = _
  rw [afterColon_head hcolon]
  simp only [PlainText.read?_val]
  rfl

theorem pullIn_of_describes {fields : List (String × Json)} (owner name base head : PlainText)
    (title body : String) (hstatus : received.response.status = 201)
    (hjson : jsonOf received.response = some (.object fields))
    (h : PullRequest.Describes fields head.val base.val name.val) :
    ∃ pull, pullIn owner.val name.val title body received = .ok pull ∧
      Echoes owner name base head title body pull := by
  obtain ⟨record, hrecord, hstate, hhead, hbase, hrepository⟩ :=
    PullRequest.readPullRequest_of_describes h received.response
  refine ⟨(record.inRepository owner.val name.val).withText title body, ?_,
    ⟨rfl, rfl, rfl, rfl, hstate, hhead, hbase, hrepository⟩⟩
  unfold pullIn
  rw [if_neg (fun hne => hne hstatus), jsonIn_of_jsonOf hjson]
  dsimp only [bind, Except.bind]
  rw [hrecord]

theorem does_openPullRequest (hlive : live.IsAt site) (hcolon : ':' ∉ account.val.toList)
    (hpath : ∀ store, [.repos, owner, name, .pulls] ∈ paths store)
    (h : before owner name = some branch) (base head : PlainText) (title body : String) :
    Does site account paths before
      (fun pull after => after = before ∧ Echoes owner name base head title body pull)
      (live.openPullRequest owner.val name.val base.val head.val title body account.val) := by
  have hjudges := live.judges_openPullRequest owner.val name.val base.val head.val title body account.val
  rw [askForPull, pullsPath_eq] at hjudges
  refine hjudges.does hlive nofun hpath (wish_pull hcolon owner name base head title body)
    fun received after hgrants => ?_
  obtain ⟨hafter, hstatus, fields, hjson, hdescribes⟩ := hgrants (by rw [h]; nofun)
  obtain ⟨pull, hpull, hechoes⟩ := pullIn_of_describes owner name base head title body hstatus hjson hdescribes
  exact ⟨pull, hpull, hafter, hechoes⟩

/-! ## Effects of operations -/

/-- No wrong login is remembered. -/
def Remembers (account : PlainText) (known : Login) : Prop :=
  ∀ login, known = some login → login = account.val

theorem remembers_none : Remembers account none :=
  fun _ hlogin => nomatch hlogin

/-- From the given store on, an operation that remembers no wrong login ends with a value and a store
    that satisfy an assertion, unless the address of a request for one of the paths is too long. It
    remembers no wrong login then either. -/
structure Acts (site : Site) (account : PlainText) (paths : Store → List (List PlainText)) (before : Store)
    (achieved : α → Store → Prop) (act : Act α) : Prop where
  keeps : ∀ known, Remembers account known →
    (act.run.run known).Keeps (Store.Allows site account) (fun _ => True)
      (fun ended after => Achieves site paths achieved ended.1 after ∧ Remembers account ended.2) before

theorem Does.acts {attempt : Attempt α} (h : Does site account paths before achieved attempt) :
    Acts site account paths before achieved (plainly attempt) := by
  refine ⟨fun known hknown => ?_⟩
  rw [run_plainly]
  exact h.keeps.bind fun result after _ hachieves => ⟨trivial, hachieves, hknown⟩

theorem Acts.bind {middle : α → Store → Prop} {achieved : β → Store → Prop} {first : Act α}
    {next : α → Act β} (h : Acts site account paths before middle first)
    (hnext : ∀ value after, middle value after → Acts site account paths after achieved (next value)) :
    Acts site account paths before achieved (first >>= next) := by
  refine ⟨fun known hknown => ?_⟩
  rw [run_bind]
  refine (h.keeps known hknown).bind fun ended after _ hended => ?_
  obtain ⟨result, known'⟩ := ended
  obtain ⟨hachieves, hknown'⟩ := hended
  cases result with
  | ok value => exact (hnext value after hachieves).keeps known' hknown'
  | error failure => exact ⟨trivial, hachieves, hknown'⟩

/-- An operation that gives the login where it is remembered, and asks for it by an attempt and remembers
    it exactly if it is learnt where it is not. -/
theorem acts_remembering {act : Act String} {attempt : Attempt String}
    (hsome : ∀ login, act.run.run (some login) = pure (.ok login, some login))
    (hnone : act.run.run none = attempt.run >>= fun result => pure (result, result.toOption))
    (h : Does site account paths before (fun login after => after = before ∧ login = account.val) attempt) :
    Acts site account paths before (fun login after => after = before ∧ login = account.val) act := by
  refine ⟨fun known hknown => ?_⟩
  cases known with
  | some login =>
      rw [hsome]
      exact ⟨trivial, ⟨rfl, hknown login rfl⟩, hknown⟩
  | none =>
      rw [hnone]
      refine h.keeps.bind fun result after _ hachieves => ⟨trivial, hachieves, fun login hlogin => ?_⟩
      cases result with
      | ok fetched => exact (Option.some.inj hlogin).symm.trans hachieves.2
      | error failure => exact absurd hlogin nofun

theorem acts_login (hlive : live.IsAt site) (hpath : ∀ store, [.user] ∈ paths store) (before : Store) :
    Acts site account paths before (fun login after => after = before ∧ login = account.val) live.login :=
  acts_remembering live.run_login_some live.run_login_none (does_fetchLogin hlive hpath before)

theorem acts_repositoryExists (hlive : live.IsAt site)
    (hpath : ∀ store, [.repos, owner, name] ∈ paths store) (before : Store) :
    Acts site account paths before (fun present after => after = before ∧
      present = (before owner name).isSome) (live.repositoryExists owner.val name.val) :=
  (does_checkRepository hlive hpath before).acts

/-- The paths that opening a pull request asks for. -/
def pullPaths (owner name : PlainText) : List (List PlainText) :=
  [[.repos, owner, name], [.user], [.repos, owner, name, .pulls]]

/-- **Opening a pull request** gives a record that says what was asked for. -/
theorem acts_createPullRequest (hlive : live.IsAt site) (hcolon : ':' ∉ account.val.toList)
    (h : before owner name = some branch) (base head : PlainText) (title body : String) :
    Acts site account (fun _ => pullPaths owner name) before
      (fun pull after => after = before ∧ Echoes owner name base head title body pull)
      (live.createPullRequest owner.val name.val base.val head.val title body) := by
  refine (does_repository hlive (by simp [pullPaths]) h).acts.bind fun _ after hafter => ?_
  subst hafter
  refine (acts_login hlive (by simp [pullPaths]) after).bind fun login store hlogin => ?_
  obtain ⟨rfl, rfl⟩ := hlogin
  exact (does_openPullRequest hlive hcolon (by simp [pullPaths]) h base head title body).acts

end Live

end PullRequestBot
