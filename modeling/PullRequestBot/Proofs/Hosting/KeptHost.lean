import PullRequestBot.Hosting.Selection
import PullRequestBot.Proofs.Result
import PullRequestBot.Proofs.Web.Division

set_option autoImplicit false

/-! # The host of a checked address

The settings are checked for an address that starts with `http://` or `https://`; the backend drops the
slashes at its end and puts paths behind it. Where the address has anything solid behind its scheme, the
paths have no part in the host. Where it has nothing solid, the check passes it all the same, hardly more
than the scheme is kept of it, and the first segment of every path is taken for the host
(`checked_address_keeps_host_iff`, `bare_scheme_sends_token_astray`). -/

namespace PullRequestBot

/-! ## Where an address points -/

namespace Url

/-- Where an address points: the server and the port, the same for everybody. -/
def host? (url : Url) : Option Authority :=
  url.authority.map Authority.anonymous

theorem host?_withoutCredentials (url : Url) : url.withoutCredentials.host? = url.host? := by
  unfold withoutCredentials
  split
  · cases hauthority : url.authority <;> simp [host?, anonymous, hauthority, Authority.anonymous]
  · rfl

/-- An address that starts with a scheme of requests, two slashes, and a character that is no slash. -/
def NamesHost (text : String) : Prop :=
  ∃ scheme c rest, (scheme = "http" ∨ scheme = "https") ∧ c ≠ '/' ∧
    text.toList = scheme.toList ++ ':' :: '/' :: '/' :: c :: rest

/-- The characters that do not tell a host: slashes of both kinds, and what does not count anywhere. -/
def hollowChars : List Char := ['/', '\\', '\t', '\n', '\r']

/-- A text that can tell a host. -/
def IsSolid (cs : List Char) : Prop :=
  ∃ c ∈ cs, c ∉ hollowChars

instance (cs : List Char) : Decidable (IsSolid cs) :=
  decidable_of_iff ((cs.any fun c => !hollowChars.contains c) = true) (by simp [IsSolid])

variable {scheme base path : String} {cs : List Char}

theorem IsSolid.visible (h : IsSolid cs) : ∃ c ∈ visible cs, c ≠ '/' ∧ c ≠ '\\' := by
  obtain ⟨c, hmem, hc⟩ := h
  simp only [hollowChars, List.mem_cons, List.not_mem_nil, or_false, not_or] at hc
  exact ⟨c, mem_visible.2 ⟨hmem, hc.2.2.2.1, hc.2.2.2.2, hc.2.2.1⟩, hc.1, hc.2.1⟩

theorem slash_of_not_isSolid (h : ¬ IsSolid cs) : ∀ c ∈ visible cs, c = '/' ∨ c = '\\' := by
  intro c hc
  obtain ⟨hmem, hline, hreturn, htab⟩ := mem_visible.1 hc
  by_contra hsolid
  refine h ⟨c, hmem, ?_⟩
  simp only [hollowChars, List.mem_cons, List.not_mem_nil, or_false, not_or]
  exact ⟨fun hslash => hsolid (Or.inl hslash), fun hback => hsolid (Or.inr hback), htab, hline, hreturn⟩

theorem isSolid_slash_cons : IsSolid ('/' :: cs) ↔ IsSolid cs := by
  simp [IsSolid, hollowChars]

/-- Slashes at the end make no text solid. -/
theorem isSolid_append {slashes : List Char} (h : ∀ c ∈ slashes, c = '/') :
    IsSolid (cs ++ slashes) ↔ IsSolid cs := by
  constructor
  · rintro ⟨c, hmem, hc⟩
    refine ⟨c, (List.mem_append.1 hmem).resolve_right fun hslash => hc ?_, hc⟩
    rw [h c hslash]
    decide
  · rintro ⟨c, hmem, hc⟩
    exact ⟨c, List.mem_append_left _ hmem, hc⟩

/-- A path below a solid text has no part in the authority. -/
theorem authority_below_solid (hscheme : scheme = "http" ∨ scheme = "https") {slashes : List Char}
    (hbase : base.toList = scheme.toList ++ ':' :: (cs ++ slashes)) (hsolid : IsSolid cs)
    (hslashes : ∀ c ∈ slashes, c = '/') (hpath : path.toList.head? = some '/') :
    (read (base ++ path)).map Url.authority =
      (readAuthority .web scheme (place (visible cs))).map some := by
  obtain ⟨ds, hds⟩ := List.head?_eq_some_iff.1 hpath
  rw [read_below hscheme hbase hds]
  have hplace : ∀ later, place (visible (cs ++ slashes) ++ '/' :: later) = place (visible cs) := by
    intro later
    rw [visible_append, List.append_assoc]
    cases slashes with
    | nil => exact place_append hsolid.visible later
    | cons c rest =>
        obtain rfl := hslashes c List.mem_cons_self
        rw [visible_cons (by decide), List.cons_append]
        exact place_append hsolid.visible _
  rw [hplace]
  cases readAuthority .web scheme (place (visible cs)) with
  | error failure | ok authority => rfl

/-- Below a hollow text, a path is read as if nothing stood between the scheme and the path. -/
theorem read_below_hollow (hscheme : scheme = "http" ∨ scheme = "https")
    (hbase : base.toList = scheme.toList ++ ':' :: cs) (hhollow : ¬ IsSolid cs)
    (hpath : path.toList.head? = some '/') : read (base ++ path) = read (scheme ++ ":" ++ path) := by
  obtain ⟨ds, hds⟩ := List.head?_eq_some_iff.1 hpath
  have hslash := slash_of_not_isSolid hhollow
  have hmark : ∀ mark : Char, mark ≠ '/' ∧ mark ≠ '\\' → mark ∉ visible cs := by
    intro mark hne hmem
    exact (hslash mark hmem).elim hne.1 hne.2
  have hnothing : (scheme ++ ":").toList = scheme.toList ++ ':' :: [] := String.toList_append
  rw [read_below hscheme hbase hds, read_below hscheme hnothing hds]
  have hquery : ∀ later, queryText? (visible cs ++ later) = queryText? later := by
    intro later
    rw [queryText?, takeWhile_ne_append (hmark '#' (by decide)), splitAtChar_snd_append (hmark '?' (by decide))]
    rfl
  simp only [place, pathText, body_hollow_append hslash, hquery,
    splitAtChar_snd_append (hmark '#' (by decide))]
  rfl

end Url

open Url

/-! ## What is kept of an address -/

namespace Live

/-- The slashes dropped at the end of an address leave what stands before a character that is none. -/
theorem dropFinalSlashes_split {text : String} {c : Char} (hc : c ≠ '/') {xs ys : List Char}
    (h : text.toList = xs ++ c :: ys) :
    ∃ kept slashes, (∀ d ∈ slashes, d = '/') ∧ ys = kept ++ slashes ∧
      (dropFinalSlashes text).toList = xs ++ c :: kept := by
  obtain ⟨slashes, hslashes, hsplit⟩ := dropEnd_split (· = '/') ys
  refine ⟨_, slashes, fun d hd => of_decide_eq_true (hslashes d hd), hsplit, ?_⟩
  rw [dropFinalSlashes, String.toList_ofList, h]
  exact dropEnd_append (decide_eq_false hc) xs ys

theorem namesHost_dropFinalSlashes (text : String) : NamesHost (dropFinalSlashes text) ↔ NamesHost text := by
  constructor
  · rintro ⟨scheme, c, rest, hscheme, hc, hkept⟩
    obtain ⟨slashes, -, htext⟩ := dropEnd_split (· = '/') text.toList
    rw [dropFinalSlashes, String.toList_ofList] at hkept
    rw [hkept] at htext
    exact ⟨scheme, c, rest ++ slashes, hscheme, hc, by simpa using htext⟩
  · rintro ⟨scheme, c, rest, hscheme, hc, htext⟩
    have hfront : text.toList = (scheme.toList ++ [':', '/', '/']) ++ c :: rest := by simp [htext]
    obtain ⟨kept, -, -, -, hkept⟩ := dropFinalSlashes_split hc hfront
    exact ⟨scheme, c, kept, hscheme, hc, by simpa using hkept⟩

/-- What is asked for below an address points where the address itself does in front of a path. -/
def KeepsHost (live : Live) (apiUrl : String) : Prop :=
  ∀ path : String, path.toList.head? = some '/' →
    (Url.read (live.apiUrl ++ path)).map Url.authority = (Url.read (apiUrl ++ "/")).map Url.authority

variable {live : Live} {apiUrl scheme : String} {rest : List Char}

/-- Where a text behind the scheme is kept but for slashes at the end, the host is kept exactly if the text
    is solid. -/
theorem keepsHost_iff (hscheme : scheme = "http" ∨ scheme = "https")
    (hurl : apiUrl.toList = scheme.toList ++ ':' :: rest) (hlive : live.apiUrl = dropFinalSlashes apiUrl) :
    live.KeepsHost apiUrl ↔ IsSolid rest := by
  obtain ⟨kept, slashes, hslashes, rfl, hkept⟩ := dropFinalSlashes_split (by decide) hurl
  rw [← hlive] at hkept
  rw [isSolid_append hslashes]
  constructor
  · intro hkeeps
    by_contra hhollow
    have huser := hkeeps "/user" (by decide)
    rw [read_below_hollow hscheme hkept hhollow (by decide),
      read_below_hollow hscheme hurl (mt (isSolid_append hslashes).1 hhollow) (by decide)] at huser
    -- below nothing but the scheme, one path names a host and the other none
    rcases hscheme with rfl | rfl <;> exact absurd huser (by decide +kernel)
  · intro hsolid path hpath
    have hnone : ∀ c ∈ ([] : List Char), c = '/' := nofun
    have hkept' : live.apiUrl.toList = scheme.toList ++ ':' :: (kept ++ []) := by simpa using hkept
    rw [authority_below_solid hscheme hkept' hsolid hnone hpath,
      authority_below_solid hscheme hurl hsolid hslashes (by decide)]

/-- A request goes to the address that is read, without the credentials in it. -/
theorem url_of_request {method : Http.Method} {path : String} {body : Option Json} {request : Http.Request}
    (h : live.request method path body = .ok request) :
    ∃ address, Url.read (live.apiUrl ++ path) = .ok address ∧ request.url = address.withoutCredentials := by
  unfold Live.request at h
  cases hread : Url.read (live.apiUrl ++ path) with
  | error failure =>
      rw [hread] at h
      exact absurd h nofun
  | ok address =>
      rw [hread] at h
      obtain ⟨-, hserver⟩ := Result.passed_guard h
      obtain ⟨-, htoken⟩ := Result.passed_guard hserver
      obtain ⟨-, hrequests⟩ := Result.passed_guard htoken
      obtain ⟨-, hsendable⟩ := Result.passed_guard hrequests
      exact ⟨address, rfl, (congrArg Http.Request.url (Except.ok.inj hsendable)).symm⟩

/-- A request below an interface that keeps its host goes to that host. -/
theorem KeepsHost.host_of_request (hkeeps : live.KeepsHost apiUrl) {method : Http.Method} {path : String}
    {body : Option Json} {request : Http.Request} (hpath : path.toList.head? = some '/')
    (h : live.request method path body = .ok request) :
    ∃ address, Url.read (apiUrl ++ "/") = .ok address ∧ request.url.host? = address.host? := by
  obtain ⟨below, hbelow, hurl⟩ := url_of_request h
  have hsame := hkeeps path hpath
  rw [hbelow] at hsame
  obtain ⟨address, haddress, hauthority⟩ := Result.map_eq_ok.1 hsame.symm
  refine ⟨address, haddress, ?_⟩
  rw [hurl, Url.host?_withoutCredentials, Url.host?, Url.host?, hauthority]

end Live

/-! ## Checked settings -/

namespace Settings

theorem scheme_of_isWebAddress {url : String} (h : isWebAddress url = true) :
    ∃ scheme rest, (scheme = "http" ∨ scheme = "https") ∧
      url.toList = scheme.toList ++ ':' :: '/' :: '/' :: rest := by
  rw [isWebAddress, Bool.or_eq_true] at h
  rcases h with hhttp | hhttps
  · obtain ⟨rest, hrest⟩ := List.isPrefixOf_iff_prefix.1 hhttp
    exact ⟨"http", rest, Or.inl rfl, hrest.symm⟩
  · obtain ⟨rest, hrest⟩ := List.isPrefixOf_iff_prefix.1 hhttps
    exact ⟨"https", rest, Or.inr rfl, hrest.symm⟩

theorem isWebAddress_of_checked {settings : Settings} (h : settings.problem? = none) :
    isWebAddress settings.apiUrl = true := by
  by_contra hweb
  rw [Bool.not_eq_true] at hweb
  unfold problem? at h
  by_cases hbranch : Text.isBlankString settings.defaultBaseBranch
  · rw [if_pos hbranch] at h
    exact absurd h nofun
  · rw [if_neg hbranch, hweb] at h
    exact absurd h nofun

/-- **A checked address keeps its host exactly if it has one.** An address that passes the check starts with
    a scheme of requests. What the backend keeps of it names a host exactly if the address itself does.
    The requests for paths below it go to the host of the address exactly if anything but slashes, tabs and
    line breaks stands behind the scheme; else whatever path is asked for is read as if the scheme stood
    right in front of it, so that the first segment is the host. -/
theorem checked_address_keeps_host_iff (settings : Settings) (hchecked : settings.problem? = none)
    (token : String) (runner : Git.Runner) :
    let live := Live.create token settings.apiUrl runner settings.forkTiming settings.requestTimeout
    ∃ scheme rest, (scheme = "http" ∨ scheme = "https") ∧
      settings.apiUrl.toList = scheme.toList ++ ':' :: '/' :: '/' :: rest ∧
      (NamesHost live.apiUrl ↔ NamesHost settings.apiUrl) ∧
      (live.KeepsHost settings.apiUrl ↔ IsSolid rest) ∧
      (IsSolid rest → ∀ method path body request, path.toList.head? = some '/' →
        live.request method path body = .ok request →
          ∃ address, Url.read (settings.apiUrl ++ "/") = .ok address ∧ request.url.host? = address.host?) ∧
      (¬ IsSolid rest → ∀ path, path.toList.head? = some '/' →
        Url.read (live.apiUrl ++ path) = Url.read (scheme ++ ":" ++ path)) := by
  intro live
  obtain ⟨scheme, rest, hscheme, hurl⟩ := scheme_of_isWebAddress (isWebAddress_of_checked hchecked)
  -- the two slashes that the check looks for are not solid
  have hkeeps : live.KeepsHost settings.apiUrl ↔ IsSolid rest := by
    rw [Live.keepsHost_iff hscheme hurl rfl, isSolid_slash_cons, isSolid_slash_cons]
  refine ⟨scheme, rest, hscheme, hurl, Live.namesHost_dropFinalSlashes _, hkeeps, ?_, ?_⟩
  · intro hsolid method path body request hpath hrequest
    exact (hkeeps.2 hsolid).host_of_request hpath hrequest
  · intro hhollow path hpath
    obtain ⟨kept, slashes, hslashes, hsplit, hkept⟩ := Live.dropFinalSlashes_split (by decide) hurl
    refine read_below_hollow hscheme hkept (fun hsolid => hhollow ?_) hpath
    have hrest := (isSolid_append hslashes).2 hsolid
    rwa [← hsplit, isSolid_slash_cons, isSolid_slash_cons] at hrest

/-- The case of an address with slashes at its end, which are dropped. -/
theorem trimmed_address_keeps_host :
    let settings : Settings := { apiUrl := "https://git.example/api///" }
    let live := Live.create "t" settings.apiUrl {} settings.forkTiming settings.requestTimeout
    settings.problem? = none ∧ live.apiUrl = "https://git.example/api" ∧ NamesHost live.apiUrl ∧
      live.KeepsHost settings.apiUrl := by
  intro settings live
  have hchecked : settings.problem? = none := by decide
  have hnames : NamesHost settings.apiUrl :=
    ⟨"https", 'g', "it.example/api///".toList, Or.inr rfl, by decide, by decide⟩
  obtain ⟨scheme, rest, hscheme, hurl, hnamed, hkeeps, -⟩ :=
    checked_address_keeps_host_iff settings hchecked "t" {}
  refine ⟨hchecked, by decide, hnamed.2 hnames, hkeeps.2 ⟨'g', ?_, by decide⟩⟩
  rcases hscheme with rfl | rfl
  · exact absurd hurl (by simp [settings])
  · simp [settings] at hurl
    simp [← hurl]

/-- The scheme alone passes the check, but nothing names a host in what is kept of it: the token is sent to
    the host that the path starts with. -/
theorem bare_scheme_sends_token_astray :
    let settings : Settings := { apiUrl := "https://" }
    let live := Live.create "t" settings.apiUrl {} settings.forkTiming settings.requestTimeout
    settings.problem? = none ∧ live.apiUrl = "https:" ∧ ¬ NamesHost live.apiUrl ∧
      (live.request .get (Live.repositoryPath "o" "n") none).toOption.map
          (fun request => (request.url.text, request.url.host?, request.authorizations)) =
        some ("https://repos/o/n", some { server := .named "repos" }, ["Bearer t"]) := by
  intro settings live
  have hkept : live.apiUrl = "https:" := by decide
  refine ⟨by decide, hkept, ?_, by decide +kernel⟩
  rintro ⟨scheme, c, rest, rfl | rfl, -, htext⟩ <;> simp [hkept] at htext

end Settings

end PullRequestBot
