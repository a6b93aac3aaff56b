import PullRequestBot.Proofs.Hosting.KeptHost
import PullRequestBot.Proofs.Hosting.Posting
import PullRequestBot.Proofs.Hosting.Fork
import PullRequestBot.Proofs.Web.Addressable

set_option autoImplicit false

/-! # What calls address

The paths of calls hold names of repositories and branches as they are, so a name with a meaning of its own
in an address asks for something else. A call asks for its path exactly if the path is addressable; calls
with addressable paths go to the same address only if the paths are the same
(`calls_address_what_they_name`, `marked_names_share_addresses`). -/

namespace PullRequestBot

open Percent (decode encode inPath)
open Segments (pathOf)
open Text (pieces)
open Text.Utf8 (encodeChars encodeChars_injective)
open Url (IsAddressable IsClear IsSolid place pathText visible queryText? segmentsBelow)

/-! ## Paths behind paths -/

namespace Segments

/-- The segments kept of a path that another follows, latest first. -/
def kept (path : List Char) : List (List Char) :=
  match path with
  | [] => []
  | _ :: path => carry [] (pieces '/' (encode inPath path))

/-- A path behind a path is read as segments below those kept of the first. -/
theorem read_append_slash {front : List Char} (hfront : ∀ c ∈ front.head?, c = '/') (path : List Char) :
    read (front ++ '/' :: path) = normalize (kept front) (pieces '/' (encode inPath path)) := by
  cases front with
  | nil => rfl
  | cons c front =>
      obtain rfl := hfront c rfl
      have hencode : encode inPath (front ++ '/' :: path) =
          encode inPath front ++ '/' :: encode inPath path := List.flatMap_append
      change normalize [] (pieces '/' (encode inPath (front ++ '/' :: path))) = _
      rw [hencode, Text.pieces_append_sep, normalize_append _ _ (Text.pieces_ne_nil _ _)]
      rfl

end Segments

namespace Url

theorem head_pathText (cs : List Char) : ∀ c ∈ (pathText cs).head?, c = '/' := by
  intro c hc
  have hstops := List.head?_dropWhile_not (· ≠ '/') (body cs)
  rw [← pathText, hc] at hstops
  simpa using hstops

end Url

namespace RepositoryName

theorem toList_of_read? {text : String} {repository : RepositoryName} (h : read? text = some repository) :
    text.toList = repository.owner.toList ++ '/' :: repository.name.toList := by
  unfold read? Text.cutString at h
  cases hcut : Text.cut '/' text.toList with
  | none =>
      rw [hcut] at h
      exact absurd h nofun
  | some halves =>
      rw [hcut] at h
      dsimp only [Option.map_some] at h
      split at h
      · exact absurd h nofun
      · obtain rfl := Option.some.inj h
        rw [String.toList_ofList, String.toList_ofList]
        exact Text.eq_append_of_cut hcut

end RepositoryName

namespace Live

/-- The interface is at an address of the web that a path can be put behind: the address can tell a host, and
    neither a query nor a fragment starts in it. -/
structure IsOpen (live : Live) (scheme : String) (rest : List Char) : Prop where
  scheme_web : scheme = "http" ∨ scheme = "https"
  apiUrl : live.apiUrl.toList = scheme.toList ++ ':' :: rest
  solid : IsSolid rest
  marks : ∀ c ∈ rest, c ≠ '?' ∧ c ≠ '#'

/-- The segments of the path of the interface, latest first. -/
def baseSegments (rest : List Char) : List (List Char) :=
  Segments.kept (pathText (visible rest))

variable {live : Live} {scheme : String} {rest : List Char} {method method' : Http.Method}
  {path path' : String} {body body' : Option Json} {request request' : Http.Request}

/-- What the address of a request is made of. -/
structure GoesTo (scheme : String) (rest path : List Char) (authority : Authority) (url : Url) : Prop where
  scheme_eq : url.scheme = scheme
  authority_eq : url.anonymous.authority = some authority.anonymous
  path_eq : url.path = Segments.text (segmentsBelow (baseSegments rest) path)
  query_eq : IsAddressable path → url.query = none

theorem goesTo_withoutCredentials {path : List Char} {authority : Authority} {url : Url}
    (h : GoesTo scheme rest path authority url) : GoesTo scheme rest path authority url.withoutCredentials := by
  unfold Url.withoutCredentials
  split
  · refine ⟨h.scheme_eq, ?_, h.path_eq, h.query_eq⟩
    rw [← h.authority_eq]
    cases hauthority : url.authority <;> simp [Url.anonymous, hauthority, Authority.anonymous]
  · exact h

/-- The address of a request below an open interface. -/
theorem IsOpen.goesTo (hopen : live.IsOpen scheme rest) {ds : List Char} (hpath : path.toList = '/' :: ds)
    (h : live.request method path body = .ok request) :
    ∃ authority, Url.readAuthority .web scheme (place (visible rest)) = .ok authority ∧
      GoesTo scheme rest ds authority request.url := by
  obtain ⟨address, hread, hurl⟩ := url_of_request h
  rw [Url.read_below hopen.scheme_web hopen.apiUrl hpath] at hread
  obtain ⟨authority, hauthority, rfl⟩ := Result.map_eq_ok.1 hread
  have hmarks : ∀ c ∈ visible rest, c ≠ '?' ∧ c ≠ '#' := fun c hc => hopen.marks c (Url.mem_visible.1 hc).1
  have hsolid := hopen.solid.visible
  rw [Url.place_append hsolid] at hauthority
  rw [Url.pathText_append hmarks hsolid, Segments.read_append_slash (Url.head_pathText _)] at hurl
  refine ⟨authority, hauthority, ?_⟩
  rw [hurl]
  refine goesTo_withoutCredentials ⟨rfl, rfl, rfl, fun haddressable => ?_⟩
  have hquery : '?' ∉ visible rest ++ '/' :: visible (ds.reverse.dropWhile Url.isOuterBlank).reverse := by
    intro hmem
    rcases List.mem_append.1 hmem with hbase | hbelow
    · exact (hmarks '?' hbase).1 rfl
    · have htrimmed := (Url.mem_visible.1 ((List.mem_cons.1 hbelow).resolve_left (by decide))).1
      exact haddressable.chars '?' ((Url.sublist_trimmed ds).subset htrimmed) (by decide)
  change Option.map _ (queryText? _) = none
  rw [Url.queryText?_of_not_mem hquery]
  rfl

/-! ## Addressable paths -/

/-- The bytes of the path of the interface. -/
def basePath (rest : List Char) : List UInt8 :=
  decode (pathOf (baseSegments rest).reverse)

/-- What a request asks for, decoded, is the path put behind that of the interface exactly if the path is
    addressable. -/
theorem IsOpen.decode_path_iff (hopen : live.IsOpen scheme rest) (hpath : path.toList.head? = some '/')
    (h : live.request method path body = .ok request) :
    decode request.url.path.toList = basePath rest ++ Text.Utf8.encode path ↔ IsAddressable path.toList := by
  obtain ⟨ds, hds⟩ := List.head?_eq_some_iff.1 hpath
  obtain ⟨authority, -, hgoes⟩ := hopen.goesTo hds h
  rw [hgoes.path_eq, Segments.text_eq, String.toList_ofList, Text.Utf8.encode, hds, basePath,
    Url.decode_asked_iff, Url.isAddressable_slash_cons]

/-- The address of a request for an addressable path, as it is sent. -/
theorem IsOpen.sent_eq (hopen : live.IsOpen scheme rest) (hpath : path.toList.head? = some '/')
    (haddressable : IsAddressable path.toList) (h : live.request method path body = .ok request) :
    ∃ authority, Url.readAuthority .web scheme (place (visible rest)) = .ok authority ∧
      request.url.sent = s!"{scheme}://{authority.anonymous.text}" ++
        String.ofList (pathOf (baseSegments rest).reverse ++ encode inPath path.toList) := by
  obtain ⟨ds, hds⟩ := List.head?_eq_some_iff.1 hpath
  obtain ⟨authority, hauthority, hgoes⟩ := hopen.goesTo hds h
  rw [hds, Url.isAddressable_slash_cons] at haddressable
  refine ⟨authority, hauthority, ?_⟩
  have hpath' : request.url.path =
      String.ofList (pathOf (baseSegments rest).reverse ++ encode inPath path.toList) := by
    rw [hgoes.path_eq, Url.segmentsBelow_of_isAddressable haddressable, Segments.text_eq, Segments.pathOf_append,
      Segments.pathOf_pieces, hds]
    rfl
  have hquery : request.url.anonymous.query = none := hgoes.query_eq haddressable
  have hscheme : request.url.anonymous.scheme = scheme := hgoes.scheme_eq
  rw [← hpath', Url.sent, Url.text, Url.origin]
  dsimp only
  rw [hgoes.authority_eq, hquery, hscheme]
  change _ ++ request.url.path ++ "" ++ "" = _
  rw [String.append_empty, String.append_empty]
  rfl

/-- Requests for addressable paths go to the same address only if the paths are the same. -/
theorem IsOpen.path_of_sent_eq (hopen : live.IsOpen scheme rest) (hpath : path.toList.head? = some '/')
    (hpath' : path'.toList.head? = some '/') (haddressable : IsAddressable path.toList)
    (haddressable' : IsAddressable path'.toList) (h : live.request method path body = .ok request)
    (h' : live.request method' path' body' = .ok request') (hsame : request.url.sent = request'.url.sent) :
    path = path' := by
  obtain ⟨authority, hauthority, hsent⟩ := hopen.sent_eq hpath haddressable h
  obtain ⟨authority', hauthority', hsent'⟩ := hopen.sent_eq hpath' haddressable' h'
  obtain rfl := Except.ok.inj (hauthority.symm.trans hauthority')
  rw [hsent, hsent'] at hsame
  have hencoded := List.append_cancel_left (String.ofList_injective (String.append_right_inj _ |>.1 hsame))
  have hbytes := congrArg decode hencoded
  rw [Percent.decode_encode, Percent.decode_encode, Percent.decode_of_not_hasEscape haddressable.no_escape,
    Percent.decode_of_not_hasEscape haddressable'.no_escape] at hbytes
  exact String.toList_injective (encodeChars_injective hbytes)

/-! ## The paths of calls -/

theorem toList_repositoryPath (owner name : String) : (repositoryPath owner name).toList =
    '/' :: ("repos".toList ++ '/' :: (owner.toList ++ '/' :: name.toList)) := by
  simp [repositoryPath]
  rfl

theorem isAddressable_repositoryPath_iff {owner name : String} :
    IsAddressable (repositoryPath owner name).toList ↔ IsClear owner.toList ∧ IsAddressable name.toList := by
  rw [toList_repositoryPath, Url.isAddressable_slash_cons, Url.isAddressable_append_slash,
    Url.isAddressable_append_slash]
  exact and_iff_right (by decide)

theorem head_repositoryPath (owner name : String) : (repositoryPath owner name).toList.head? = some '/' := by
  rw [toList_repositoryPath]
  rfl

theorem toList_lookAtPull (owner name : String) (number : UInt64) : (lookAtPull owner name number).path.toList =
    (repositoryPath owner name).toList ++ '/' :: ("pulls".toList ++ '/' :: Nat.toDigits 10 number.toNat) := by
  simp [lookAtPull]
  rfl

theorem isAddressable_lookAtPull {owner name : String} (howner : IsClear owner.toList)
    (hname : IsClear name.toList) (number : UInt64) :
    IsAddressable (lookAtPull owner name number).path.toList := by
  have hdigits : IsAddressable (Nat.toDigits 10 number.toNat) :=
    Url.isAddressable_of_isDigit fun _ => Nat.isDigit_of_mem_toDigits (by decide) (by decide)
  have hrepository : IsClear (repositoryPath owner name).toList := by
    rw [toList_repositoryPath, Url.isClear_slash_cons, Url.isClear_append_slash, Url.isClear_append_slash]
    exact ⟨by decide, howner, hname⟩
  rw [toList_lookAtPull, Url.isAddressable_append_slash, Url.isAddressable_append_slash]
  exact ⟨hrepository, by decide, hdigits⟩

theorem toList_renameTo (owner name wanted branch : String) : (renameTo owner name wanted branch).path.toList =
    (repositoryPath owner name).toList ++ '/' :: ("branches".toList ++ '/' :: (branch.toList ++ '/' ::
      "rename".toList)) := by
  simp [renameTo]
  rfl

theorem head_renameTo (owner name wanted branch : String) :
    (renameTo owner name wanted branch).path.toList.head? = some '/' := by
  rw [toList_renameTo, toList_repositoryPath]
  rfl

theorem isAddressable_renameTo_iff {owner name wanted branch : String} :
    IsAddressable (renameTo owner name wanted branch).path.toList ↔
      IsClear owner.toList ∧ IsClear name.toList ∧ IsClear branch.toList := by
  have hend : IsAddressable "rename".toList := by decide
  have hbranches : IsClear "branches".toList := by decide
  have hrepository : IsClear (repositoryPath owner name).toList ↔ IsClear owner.toList ∧ IsClear name.toList := by
    rw [toList_repositoryPath, Url.isClear_slash_cons, Url.isClear_append_slash, Url.isClear_append_slash]
    exact and_iff_right (by decide)
  rw [toList_renameTo, Url.isAddressable_append_slash, Url.isAddressable_append_slash,
    Url.isAddressable_append_slash, hrepository]
  simp only [hend, hbranches, true_and, and_true, and_assoc]

/-! ## What calls address -/

/-- The call is built into the request. -/
def Builds (live : Live) (call : Call) (request : Http.Request) : Prop :=
  live.request call.method call.path call.body = .ok request

/-- Looks at different repositories with names that stand for themselves go to different addresses. -/
theorem IsOpen.sent_ne_of_repository (hopen : live.IsOpen scheme rest) {text text' : String}
    {repository repository' : RepositoryName} (hread : RepositoryName.read? text = some repository)
    (hread' : RepositoryName.read? text' = some repository') (hne : repository ≠ repository')
    (hclear : IsClear repository.owner.toList ∧ IsAddressable repository.name.toList)
    (hclear' : IsClear repository'.owner.toList ∧ IsAddressable repository'.name.toList)
    (h : live.Builds (lookAt repository.owner repository.name) request)
    (h' : live.Builds (lookAt repository'.owner repository'.name) request') :
    request.url.sent ≠ request'.url.sent := by
  intro hsame
  have hpath := hopen.path_of_sent_eq (head_repositoryPath ..) (head_repositoryPath ..) (isAddressable_repositoryPath_iff.2 hclear)
    (isAddressable_repositoryPath_iff.2 hclear') h h' hsame
  -- behind `/repos/` stands the text that the repository was read from
  have hchars := congrArg String.toList hpath
  rw [toList_repositoryPath, toList_repositoryPath] at hchars
  have htext := (List.cons.inj (List.append_cancel_left (List.cons.inj hchars).2)).2
  rw [← RepositoryName.toList_of_read? hread, ← RepositoryName.toList_of_read? hread'] at htext
  obtain rfl := String.toList_injective htext
  exact hne (Option.some.inj (hread.symm.trans hread'))

/-- Renames of different branches that stand for themselves go to different addresses. -/
theorem IsOpen.sent_ne_of_branch (hopen : live.IsOpen scheme rest)
    {login name wanted wanted' branch branch' : String} (hne : branch ≠ branch')
    (hrepository : IsClear login.toList ∧ IsClear name.toList) (hclear : IsClear branch.toList)
    (hclear' : IsClear branch'.toList) (h : live.Builds (renameTo login name wanted branch) request)
    (h' : live.Builds (renameTo login name wanted' branch') request') :
    request.url.sent ≠ request'.url.sent := by
  intro hsame
  have hpath := hopen.path_of_sent_eq (head_renameTo ..) (head_renameTo ..)
    (isAddressable_renameTo_iff.2 ⟨hrepository.1, hrepository.2, hclear⟩)
    (isAddressable_renameTo_iff.2 ⟨hrepository.1, hrepository.2, hclear'⟩) h h' hsame
  have hchars := congrArg String.toList hpath
  rw [toList_renameTo, toList_renameTo] at hchars
  have hbranches := (List.cons.inj (List.append_cancel_left hchars)).2
  have hends := (List.cons.inj (List.append_cancel_left hbranches)).2
  exact hne (String.toList_injective (List.append_cancel_right hends))

/-- The address of a rename ends as it is written. -/
theorem IsOpen.rename_suffix (hopen : live.IsOpen scheme rest) {login name wanted branch : String}
    (hclear : IsClear login.toList ∧ IsClear name.toList ∧ IsClear branch.toList)
    (h : live.Builds (renameTo login name wanted branch) request) :
    "/rename".toList <:+ request.url.sent.toList := by
  obtain ⟨authority, -, hsent⟩ := hopen.sent_eq (head_renameTo ..) (isAddressable_renameTo_iff.2 hclear) h
  have hfront : ∃ front, (renameTo login name wanted branch).path.toList = front ++ "/rename".toList :=
    ⟨(repositoryPath login name).toList ++ '/' :: ("branches".toList ++ '/' :: branch.toList),
      by simp [toList_renameTo]⟩
  obtain ⟨front, hfront⟩ := hfront
  have hencode : encode inPath (front ++ "/rename".toList) = encode inPath front ++ "/rename".toList :=
    List.flatMap_append
  have hends : ∀ cs : List Char, "/rename".toList <:+ (String.ofList (cs ++ "/rename".toList)).toList := by
    intro cs
    rw [@String.toList_ofList (cs ++ _)]
    exact List.suffix_append _ _
  rw [hsent, String.toList_append, hfront, hencode, ← List.append_assoc]
  exact (hends _).trans (List.suffix_append _ _)

/-! ## Posts of the alignment -/

theorem mem_sent_of_posts {exchange : Said} {said : List Said} (hmem : exchange ∈ said)
    (hposts : Posts exchange) : exchange ∈ sent said := by
  obtain ⟨request, timeout, answer, rfl, -⟩ := hposts
  exact List.mem_filter.2 ⟨hmem, rfl⟩

/-- An attempt that makes one call posts nothing but that. -/
theorem Judges.makes_of_posts {α : Type} {call : Call} {verdict : Received → Except Failure α}
    {attempt : Attempt α} {said : List Said} {result : Except Failure α} {exchange : Said}
    (h : live.Judges call verdict attempt) (hleads : attempt.run.Leads said result) (hmem : exchange ∈ said)
    (hposts : Posts exchange) : live.Makes call exchange := by
  obtain ⟨reply, hsent, -⟩ := h said result hleads
  have hmem := mem_sent_of_posts hmem hposts
  rcases hsent.single with hnone | ⟨only, hone⟩
  · rw [hnone] at hmem
    exact absurd hmem List.not_mem_nil
  · rw [hone] at hsent hmem
    obtain rfl := List.mem_singleton.1 hmem
    exact hsent.makes

theorem leads_of_lift {α : Type} {first : Job α} {said : List Said} {result : Except Failure α}
    (h : (liftM first : Attempt α).run.Leads said result) : ∃ value, first.Leads said value := by
  rw [← bind_pure (liftM first : Attempt α)] at h
  obtain ⟨before, value, after, rfl, hfirst, hrest⟩ := Dialogue.leads_run_lift_bind_iff.1 h
  obtain ⟨rfl, -⟩ := Dialogue.leads_done_iff.1 hrest
  exact ⟨value, (List.append_nil before).symm ▸ hfirst⟩

/-- A question that is no request posts nothing. -/
theorem not_posts_of_question {q : Host.Question} {said : List Said} {answer : Host.Answer q} {exchange : Said}
    (hq : isSend q = false) (h : (Host.ask q).Leads said answer) (hmem : exchange ∈ said) :
    ¬ Posts exchange := by
  intro hposts
  have hsent := mem_sent_of_posts hmem hposts
  rw [sent_question h hq] at hsent
  exact absurd hsent List.not_mem_nil

/-- Aligning the default branches posts nothing but the rename of the branch that was told to be the
    fork's. -/
theorem rename_of_sync {owner name login : String} {said : List Said} {result : Except Failure Unit}
    {exchange : Said} (h : (live.syncDefaultBranch owner name login).run.Leads said result)
    (hmem : exchange ∈ said) (hposts : Posts exchange) :
    ∃ wanted branch told, (live.defaultBranch login name).run.Leads told (.ok branch) ∧ told <:+: said ∧
      live.Makes (renameTo login name wanted branch) exchange := by
  have hlook : ∀ {owner : String} {said : List Said} {result : Except Failure String},
      (live.defaultBranch owner name).run.Leads said result → exchange ∉ said := by
    intro owner said result hleads hmem
    have hmakes := (live.judges_defaultBranch owner name).makes_of_posts hleads hmem hposts
    exact absurd (hmakes.post_of_posts hposts) nofun
  -- the two looks come first; then the branches agree, or the one post and a pause follow
  unfold syncDefaultBranch at h
  rcases Dialogue.leads_run_bind_iff.1 h with ⟨failure, rfl, hparent⟩ | ⟨before, wanted, later, rfl, hparent, hlater⟩
  · exact absurd hmem (hlook hparent)
  · rcases Dialogue.leads_run_bind_iff.1 hlater with
      ⟨failure, rfl, hfork⟩ | ⟨told, branch, after, rfl, hfork, hafter⟩
    · exact absurd hmem (by simp [hlook hparent, hlook hfork])
    · refine ⟨wanted, branch, told, hfork, ⟨before, after, by simp⟩, ?_⟩
      have hmem : exchange ∈ after := by simpa [hlook hparent, hlook hfork] using hmem
      dsimp only at hafter
      split at hafter
      · obtain ⟨_, htold⟩ := leads_of_lift hafter
        exact absurd hposts (not_posts_of_question rfl htold hmem)
      · rw [← submit_bind] at hafter
        obtain ⟨noted, _, done, rfl, hnoted, hdone⟩ := Dialogue.leads_run_lift_bind_iff.1 hafter
        have hmem : exchange ∈ done :=
          (List.mem_append.1 hmem).resolve_left fun hmem => not_posts_of_question rfl hnoted hmem hposts
        rcases Dialogue.leads_run_bind_iff.1 hdone with
          ⟨failure, rfl, hrename⟩ | ⟨posted, _, waited, rfl, hrename, hwait⟩
        · exact (live.judges_submit _ _ _ _ _).makes_of_posts hrename hmem hposts
        · obtain ⟨_, hpause⟩ := leads_of_lift hwait
          have hmem : exchange ∈ posted :=
            (List.mem_append.1 hmem).resolve_right fun hmem => not_posts_of_question rfl hpause hmem hposts
          exact (live.judges_submit _ _ _ _ _).makes_of_posts hrename hmem hposts

/-- **What calls address.** Let the interface be at an address that paths can be put behind.

    A request asks for the bytes of its path, behind those of the interface's own, exactly if the path is
    addressable. So looks at different repositories, with owners and names that stand for themselves, go to
    different addresses. Aligning the default branches posts nothing but the rename of the branch that was
    told to be the fork's; and renames of different branches, with names that stand for themselves, go to
    different addresses, each of which ends as it is written. -/
theorem calls_address_what_they_name (live : Live) (scheme : String) (rest : List Char)
    (hopen : live.IsOpen scheme rest) :
    (∀ call request, call.path.toList.head? = some '/' → live.Builds call request →
      (decode request.url.path.toList = basePath rest ++ Text.Utf8.encode call.path ↔
        IsAddressable call.path.toList)) ∧
    (∀ text text' repository repository' request request',
      RepositoryName.read? text = some repository → RepositoryName.read? text' = some repository' →
      repository ≠ repository' →
      IsClear repository.owner.toList ∧ IsAddressable repository.name.toList →
      IsClear repository'.owner.toList ∧ IsAddressable repository'.name.toList →
      live.Builds (lookAt repository.owner repository.name) request →
      live.Builds (lookAt repository'.owner repository'.name) request' →
        request.url.sent ≠ request'.url.sent) ∧
    (∀ owner name login platform past exchange,
      let said := ((live.syncDefaultBranch owner name login).run.transcript platform past).1
      exchange ∈ said → Posts exchange →
        ∃ wanted branch told, (live.defaultBranch login name).run.Leads told (.ok branch) ∧ told <:+: said ∧
          live.Makes (renameTo login name wanted branch) exchange) ∧
    (∀ login name wanted wanted' branch branch' request request', branch ≠ branch' →
      IsClear login.toList ∧ IsClear name.toList → IsClear branch.toList → IsClear branch'.toList →
      live.Builds (renameTo login name wanted branch) request →
      live.Builds (renameTo login name wanted' branch') request' →
        request.url.sent ≠ request'.url.sent ∧ "/rename".toList <:+ request.url.sent.toList ∧
          "/rename".toList <:+ request'.url.sent.toList) := by
  refine ⟨?_, ?_, ?_, ?_⟩
  · intro call request hpath hbuilds
    exact hopen.decode_path_iff hpath hbuilds
  · intro text text' repository repository' request request' hread hread' hne hclear hclear' h h'
    exact hopen.sent_ne_of_repository hread hread' hne hclear hclear' h h'
  · intro owner name login platform past exchange said hmem hposts
    exact rename_of_sync (Dialogue.leads_transcript platform past _) hmem hposts
  · intro login name wanted wanted' branch branch' request request' hne hrepository hclear hclear' h h'
    exact ⟨hopen.sent_ne_of_branch hne hrepository hclear hclear' h h',
      hopen.rename_suffix ⟨hrepository.1, hrepository.2, hclear⟩ h,
      hopen.rename_suffix ⟨hrepository.1, hrepository.2, hclear'⟩ h'⟩

/-- The public interface is at such an address. -/
theorem isOpen_default (h : live.apiUrl = defaultApiUrl) : live.IsOpen "https" "//api.github.com".toList :=
  ⟨Or.inr rfl, by rw [h]; decide +kernel, by decide +kernel, Segments.forall_of_all (by decide +kernel)⟩

/-- The case of two repositories of one owner, below the public interface. -/
theorem public_calls_address_what_they_name :
    let live : Live := { token := "t", client := {} }
    live.IsOpen "https" "//api.github.com".toList ∧
      ∃ request request', live.Builds (lookAt "o" "n") request ∧ live.Builds (lookAt "o" "m") request' ∧
        request.url.sent ≠ request'.url.sent := by
  intro live
  have hopen : live.IsOpen "https" "//api.github.com".toList := isOpen_default rfl
  have hbuilt : ∀ name ∈ ["n", "m"], (live.request .get (repositoryPath "o" name) none).toOption.isSome := by
    decide +kernel
  obtain ⟨request, hrequest⟩ := Option.isSome_iff_exists.1 (hbuilt "n" (by simp))
  obtain ⟨request', hrequest'⟩ := Option.isSome_iff_exists.1 (hbuilt "m" (by simp))
  have hn := Result.toOption_eq_some.1 hrequest
  have hm := Result.toOption_eq_some.1 hrequest'
  obtain ⟨-, hlooks, -, -⟩ := calls_address_what_they_name live "https" _ hopen
  exact ⟨hopen, request, request', hn, hm, hlooks "o/n" "o/m" ⟨"o", "n"⟩ ⟨"o", "m"⟩ request request'
    (by decide) (by decide) (by decide) (by decide) (by decide) hn hm⟩

/-- A mark in a name ends the path: different repositories and different branches share an address, which
    does not end as that of a rename. -/
theorem marked_names_share_addresses :
    let live : Live := { token := "t", client := {} }
    let sentBy := fun call : Call => (live.request call.method call.path call.body).toOption.map fun request =>
      request.url.sent
    RepositoryName.read? "o/n#a" = some ⟨"o", "n#a"⟩ ∧ RepositoryName.read? "o/n#b" = some ⟨"o", "n#b"⟩ ∧
      sentBy (lookAt "o" "n#a") = some "https://api.github.com/repos/o/n" ∧
      sentBy (lookAt "o" "n#b") = some "https://api.github.com/repos/o/n" ∧
      sentBy (renameTo "me" "n" "main" "a#b") = some "https://api.github.com/repos/me/n/branches/a" ∧
      sentBy (renameTo "me" "n" "main" "a#c") = some "https://api.github.com/repos/me/n/branches/a" := by
  decide +kernel

end Live

end PullRequestBot
