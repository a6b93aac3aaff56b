import PullRequestBot.Hosting.Live
import PullRequestBot.Proofs.Web.PlainPath

set_option autoImplicit false

/-! # Requests below a site

Where the address of the interface is a site on the web and the token can be sent, the request for a
path of plain segments can be built, unless its address is too long to be sent
(`request_below`). -/

namespace PullRequestBot.Live

variable {live : Live} {site : Site}

/-- The interface is at a site that requests can be sent to, with a token that can be sent. -/
structure IsAt (live : Live) (site : Site) : Prop where
  apiUrl : live.apiUrl = site.text
  server_present : site.authority.server.isPresent = true
  server_sendable : ∀ c ∈ site.authority.server.text.toList,
    ['"', '`', '\x7b', '\x7d'].contains c = false
  token_sendable : Http.isSendable (Http.tokenAuthorization live.token) = true

/-- The address that a request for a path below a site goes to. -/
def urlBelow (site : Site) (segments : List (List Char)) : Url :=
  (site.below segments).withoutCredentials

/-- Taking the credentials away changes neither the scheme, nor the server, nor the path. -/
theorem urlBelow_facts (site : Site) (segments : List (List Char)) :
    (urlBelow site segments).scheme = site.scheme ∧
      (urlBelow site segments).path = Segments.text (site.front ++ segments) ∧
      ∃ authority, (urlBelow site segments).authority = some authority ∧
        authority.server = site.authority.server := by
  unfold urlBelow Url.withoutCredentials
  split
  · exact ⟨rfl, rfl, _, rfl, rfl⟩
  · exact ⟨rfl, rfl, _, rfl, rfl⟩

/-- The address of a path below a site can be written into a request. -/
def Fits (site : Site) (segments : List (List Char)) : Prop :=
  (urlBelow site segments).text.utf8ByteSize ≤ Url.maxLength

instance (site : Site) (segments : List (List Char)) : Decidable (Fits site segments) :=
  inferInstanceAs (Decidable (_ ≤ _))

/-- The failure of a request whose address is too long. -/
def tooLong (site : Site) (segments : List (List Char)) : RequestFailure :=
  .builder (some (urlBelow site segments).text) (some "Parsed Url is not a valid Uri")

/-- The request for a path below a site. -/
def requestBelow (live : Live) (site : Site) (method : Http.Method) (segments : List (List Char))
    (body : Option Json) : Http.Request where
  method := method
  url := urlBelow site segments
  authorizations := ((site.below segments).credentials?.map Http.basicAuthorization).toList ++
    [Http.tokenAuthorization live.token]
  accept := "application/vnd.github+json"
  agent := s!"feedstock-bot/{version}"
  body := body

theorem hasRequests_urlBelow (site : Site) (segments : List (List Char)) :
    (urlBelow site segments).hasRequests = true := by
  rw [Url.hasRequests, (urlBelow_facts site segments).1]
  rcases site.scheme_web with h | h <;> rw [h] <;> rfl

theorem isSendable_urlBelow (h : live.IsAt site) (segments : List (List Char)) :
    (urlBelow site segments).isSendable = decide (Fits site segments) := by
  obtain ⟨-, -, authority, hauthority, hserver⟩ := urlBelow_facts site segments
  have hchars : authority.server.text.toList.all
      (fun c => !(['"', '`', '\x7b', '\x7d'].contains c)) = true := by
    refine List.all_eq_true.2 fun c hc => ?_
    rw [hserver] at hc
    rw [h.server_sendable c hc]
    rfl
  rw [Url.isSendable, hauthority, Option.all_some, hchars, Bool.and_true]
  rfl

/-- The request for a path of plain segments can be built, unless its address is too long. -/
theorem request_below (h : live.IsAt site) (method : Http.Method) {segments : List (List Char)}
    (hne : segments ≠ []) (hplain : ∀ segment ∈ segments, Segments.IsPlain segment)
    (body : Option Json) :
    live.request method (Segments.text segments) body =
      if Fits site segments then .ok (live.requestBelow site method segments body)
      else .error (tooLong site segments) := by
  have hread := site.read_append hne hplain
  rw [← h.apiUrl] at hread
  have hserver : (site.below segments).hasServer = true := h.server_present
  have hrequests : (site.below segments).withoutCredentials.hasRequests = true :=
    hasRequests_urlBelow site segments
  have hsendable : (site.below segments).withoutCredentials.isSendable = decide (Fits site segments) :=
    isSendable_urlBelow h segments
  unfold request
  rw [hread]
  simp only [pure_bind]
  rw [hserver, h.token_sendable, hrequests, hsendable]
  by_cases hfits : Fits site segments
  · rw [if_pos hfits, decide_eq_true hfits]
    rfl
  · rw [if_neg hfits, decide_eq_false hfits]
    rfl

/-! ## Long addresses -/

theorem length_le_utf8ByteSize (cs : List Char) : cs.length ≤ (String.ofList cs).utf8ByteSize := by
  induction cs with
  | nil => exact Nat.zero_le _
  | cons c cs ih =>
      have hpos := c.utf8Size_pos
      rw [String.ofList_cons, String.utf8ByteSize_append, String.utf8ByteSize_singleton,
        List.length_cons]
      omega

theorem length_le_pathOf {segment : List Char} {segments : List (List Char)} (h : segment ∈ segments) :
    segment.length ≤ (Segments.pathOf segments).length := by
  obtain ⟨before, after, rfl⟩ := List.append_of_mem h
  simp [Segments.pathOf]
  omega

/-- An address does not fit if a segment alone is too long. -/
theorem not_fits_of_mem {segment : List Char} {segments : List (List Char)} (h : segment ∈ segments)
    (hlong : Url.maxLength < segment.length) : ¬ Fits site segments := by
  have hpath : segment.length ≤ (urlBelow site segments).path.utf8ByteSize := by
    rw [(urlBelow_facts site segments).2.1, Segments.text_eq]
    exact Nat.le_trans (length_le_pathOf (List.mem_append_right _ h)) (length_le_utf8ByteSize _)
  have htext : (urlBelow site segments).path.utf8ByteSize ≤ (urlBelow site segments).text.utf8ByteSize := by
    simp only [Url.text, toString, String.utf8ByteSize_append]
    omega
  exact Nat.not_le_of_lt (Nat.lt_of_lt_of_le hlong (Nat.le_trans hpath htext))

/-! ## The public interface -/

/-- The site of the public interface. -/
def publicSite : Site where
  scheme := "https"
  place := "api.github.com".toList
  front := []
  authority := { server := .named "api.github.com" }
  scheme_web := Or.inr rfl
  place_visible := Segments.forall_of_all rfl
  place_read := rfl
  front_plain := nofun

/-- By default, the interface is the public one. -/
theorem isAt_publicSite (hurl : live.apiUrl = defaultApiUrl)
    (htoken : Http.isSendable (Http.tokenAuthorization live.token) = true) : live.IsAt publicSite where
  apiUrl := hurl.trans (by decide +kernel)
  server_present := rfl
  server_sendable := Segments.forall_of_all rfl
  token_sendable := htoken

end PullRequestBot.Live
