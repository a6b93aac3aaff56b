import Mathlib.Data.List.TakeWhile
import PullRequestBot.Proofs.Web.PlainPath

set_option autoImplicit false

/-! # How a web address is divided

Behind the scheme of a web address stand slashes, then the text of the authority up to the next slash
(`place`), then the path (`pathText`), all of it before the first `#` or `?`. What is read of an address is
read of these parts (`read_web`). Where a text has anything solid in it, a path behind that text has no part
in the authority (`place_append`); where it has nothing solid, the path's first segment becomes the authority
(`body_hollow_append`). -/

namespace PullRequestBot.Url

/-! ## Parts of texts -/

theorem takeWhile_append_of_neg {α : Type} {p : α → Bool} {c : α} (hc : p c = false) (xs ys : List α) :
    (xs ++ c :: ys).takeWhile p = xs.takeWhile p := by
  induction xs with
  | nil => simp [hc]
  | cons x xs ih => simp only [List.cons_append, List.takeWhile_cons, ih]

theorem dropWhile_append_of_neg {α : Type} {p : α → Bool} {c : α} (hc : p c = false) (xs ys : List α) :
    (xs ++ c :: ys).dropWhile p = xs.dropWhile p ++ c :: ys := by
  induction xs with
  | nil => simp [hc]
  | cons x xs ih =>
      cases hx : p x with
      | true => simp [hx, ih]
      | false => simp [hx]

theorem takeWhile_append_of_mem {α : Type} {p : α → Bool} {xs : List α} (h : ∃ c ∈ xs, p c = false)
    (ys : List α) : (xs ++ ys).takeWhile p = xs.takeWhile p := by
  obtain ⟨c, hmem, hc⟩ := h
  obtain ⟨before, after, rfl⟩ := List.append_of_mem hmem
  rw [List.append_assoc, List.cons_append, takeWhile_append_of_neg hc, takeWhile_append_of_neg hc]

theorem dropWhile_append_of_mem {α : Type} {p : α → Bool} {xs : List α} (h : ∃ c ∈ xs, p c = false)
    (ys : List α) : (xs ++ ys).dropWhile p = xs.dropWhile p ++ ys := by
  obtain ⟨c, hmem, hc⟩ := h
  obtain ⟨before, after, rfl⟩ := List.append_of_mem hmem
  rw [List.append_assoc, List.cons_append, dropWhile_append_of_neg hc, dropWhile_append_of_neg hc,
    List.append_assoc, List.cons_append]

/-- What is dropped at the end of a text stands behind every character that stays. -/
theorem dropEnd_append {p : Char → Bool} {c : Char} (hc : p c = false) (xs ys : List Char) :
    ((xs ++ c :: ys).reverse.dropWhile p).reverse = xs ++ c :: (ys.reverse.dropWhile p).reverse := by
  have hsplit : (xs ++ c :: ys).reverse = ys.reverse ++ c :: xs.reverse := by simp
  rw [hsplit]
  -- from the end, the dropping stops in `ys`, or at the character
  by_cases hys : ∃ d ∈ ys.reverse, p d = false
  · rw [dropWhile_append_of_mem hys]
    simp
  · have hall : ∀ d ∈ ys.reverse, p d = true := by simpa using hys
    rw [List.dropWhile_append_of_pos hall, List.dropWhile_cons_of_neg (by simp [hc]),
      List.dropWhile_eq_nil_iff.2 hall]
    simp

/-- A text is what is kept of it and then what is dropped at its end. -/
theorem dropEnd_split (p : Char → Bool) (cs : List Char) :
    ∃ dropped, (∀ c ∈ dropped, p c = true) ∧ cs = (cs.reverse.dropWhile p).reverse ++ dropped := by
  refine ⟨(cs.reverse.takeWhile p).reverse, fun c hc => ?_, ?_⟩
  · exact List.mem_takeWhile_imp (List.mem_reverse.1 hc)
  · rw [← List.reverse_append, List.takeWhile_append_dropWhile, List.reverse_reverse]

/-! ## The parts of an address -/

/-- A text without the line breaks and tabs in it. -/
def visible (cs : List Char) : List Char :=
  cs.filter fun c => c ≠ '\n' && c ≠ '\r' && c ≠ '\t'

/-- What stands before the query and the fragment. -/
def beforeQuery (cs : List Char) : List Char :=
  cs.takeWhile fun c => c ≠ '?' ∧ c ≠ '#'

/-- A text with the backslashes turned into slashes. -/
def slashed (cs : List Char) : List Char :=
  cs.map fun c => if c = '\\' then '/' else c

/-- What stands behind the slashes in front. -/
def body (cs : List Char) : List Char :=
  (slashed (beforeQuery cs)).dropWhile (· = '/')

/-- The text of the authority. -/
def place (cs : List Char) : List Char :=
  (body cs).takeWhile (· ≠ '/')

/-- The text of the path. -/
def pathText (cs : List Char) : List Char :=
  (body cs).dropWhile (· ≠ '/')

/-- The text of the query, if there is one. -/
def queryText? (cs : List Char) : Option (List Char) :=
  (splitAtChar '?' (cs.takeWhile (· ≠ '#'))).2

theorem takeWhile_ne_append {mark : Char} {xs : List Char} (h : mark ∉ xs) (ys : List Char) :
    (xs ++ ys).takeWhile (· ≠ mark) = xs ++ ys.takeWhile (· ≠ mark) := by
  refine List.takeWhile_append_of_pos fun c hc => decide_eq_true ?_
  rintro rfl
  exact h hc

theorem splitAtChar_fst (mark : Char) (cs : List Char) :
    (splitAtChar mark cs).1 = cs.takeWhile (· ≠ mark) := by
  unfold splitAtChar
  by_cases hmem : mark ∈ cs
  · obtain ⟨front, back, rfl, hfront⟩ := List.eq_append_cons_of_mem hmem
    rw [Text.cut_append hfront, takeWhile_ne_append hfront, List.takeWhile_cons_of_neg (by simp),
      List.append_nil]
  · have hkept := takeWhile_ne_append hmem []
    rw [List.append_nil, List.takeWhile_nil, List.append_nil] at hkept
    rw [Text.cut_of_not_mem hmem, hkept]

theorem takeWhile_beforeQuery (cs : List Char) :
    (cs.takeWhile (· ≠ '#')).takeWhile (· ≠ '?') = beforeQuery cs := by
  rw [List.takeWhile_takeWhile, beforeQuery]
  simp

theorem splitAtChar_snd_of_not_mem {mark : Char} {cs : List Char} (h : mark ∉ cs) :
    (splitAtChar mark cs).2 = none := by
  rw [splitAtChar, Text.cut_of_not_mem h]

theorem queryText?_of_not_mem {cs : List Char} (h : '?' ∉ cs) : queryText? cs = none :=
  splitAtChar_snd_of_not_mem fun hmem => h ((List.takeWhile_sublist _).subset hmem)

/-- A text without the mark in front of another does not change what follows the mark. -/
theorem splitAtChar_snd_append {mark : Char} {xs : List Char} (h : mark ∉ xs) (ys : List Char) :
    (splitAtChar mark (xs ++ ys)).2 = (splitAtChar mark ys).2 := by
  by_cases hmem : mark ∈ ys
  · obtain ⟨front, back, rfl, hfront⟩ := List.eq_append_cons_of_mem hmem
    have hboth : mark ∉ xs ++ front := by simp [h, hfront]
    rw [splitAtChar, splitAtChar, ← List.append_assoc, Text.cut_append hboth, Text.cut_append hfront]
  · rw [splitAtChar_snd_of_not_mem hmem, splitAtChar_snd_of_not_mem (by simp [h, hmem])]

/-- An address is cleaned up to a slash by itself, and so is what follows the slash, but for blanks at the
    end. -/
theorem clean_append {first : Char} (hfirst : isOuterBlank first = false) (cs path : List Char) :
    clean (first :: cs ++ '/' :: path) =
      visible (first :: cs) ++ '/' :: visible (path.reverse.dropWhile isOuterBlank).reverse := by
  have hfront : (first :: cs ++ '/' :: path).dropWhile isOuterBlank = first :: cs ++ '/' :: path := by
    rw [List.cons_append, List.dropWhile_cons_of_neg (by simp [hfirst])]
  unfold clean
  simp only [hfront]
  rw [dropEnd_append (show isOuterBlank '/' = false by decide), List.filter_append]
  rfl

/-! ## Reading a web address -/

/-- What is read of an address of the web is read of its parts. -/
theorem read_web {scheme text : String} {rest : List Char} (hkind : SchemeKind.ofScheme scheme = .web)
    (hsplit : splitScheme (clean text.toList) = some (scheme, rest)) :
    read text = (readAuthority .web scheme (place rest)).map fun authority =>
      { scheme := scheme
        authority := some authority
        path := Segments.text (Segments.read (pathText rest))
        query := (queryText? rest).map (Percent.encoded (isEncodedInQuery scheme))
        fragment := (splitAtChar '#' rest).2.map (Percent.encoded Percent.inFragment) } := by
  unfold read
  rw [hsplit]
  dsimp only
  rw [readFront, hkind]
  dsimp only
  rw [splitAtChar_fst, splitAtChar_fst, takeWhile_beforeQuery, readWeb]
  change ((readAuthority .web scheme (place rest) >>= _) >>= _) = _
  cases readAuthority .web scheme (place rest) with
  | error failure | ok authority => rfl

/-! ## Texts behind a text -/

theorem visible_append (xs ys : List Char) : visible (xs ++ ys) = visible xs ++ visible ys :=
  List.filter_append xs ys

theorem visible_cons {c : Char} (h : c ≠ '\n' ∧ c ≠ '\r' ∧ c ≠ '\t') (cs : List Char) :
    visible (c :: cs) = c :: visible cs :=
  List.filter_cons_of_pos (by simp [h])

theorem visible_eq_self {cs : List Char} (h : ∀ c ∈ cs, c ≠ '\n' ∧ c ≠ '\r' ∧ c ≠ '\t') :
    visible cs = cs :=
  List.filter_eq_self.2 fun c hc => by simp [h c hc]

theorem mem_visible {c : Char} {cs : List Char} :
    c ∈ visible cs ↔ c ∈ cs ∧ c ≠ '\n' ∧ c ≠ '\r' ∧ c ≠ '\t' := by
  simp [visible, and_assoc]

theorem beforeQuery_append_of_mem {xs : List Char} (h : ∃ c ∈ xs, c = '?' ∨ c = '#') (ys : List Char) :
    beforeQuery (xs ++ ys) = beforeQuery xs := by
  refine takeWhile_append_of_mem ?_ ys
  obtain ⟨c, hmem, hc⟩ := h
  refine ⟨c, hmem, decide_eq_false ?_⟩
  rintro ⟨hquestion, hhash⟩
  exact hc.elim hquestion hhash

theorem beforeQuery_append {xs : List Char} (h : ∀ c ∈ xs, c ≠ '?' ∧ c ≠ '#') (ys : List Char) :
    beforeQuery (xs ++ ys) = xs ++ beforeQuery ys :=
  List.takeWhile_append_of_pos fun c hc => decide_eq_true (h c hc)

/-- Slashes in front of a text do not count. -/
theorem body_hollow_append {xs : List Char} (h : ∀ c ∈ xs, c = '/' ∨ c = '\\') (ys : List Char) :
    body (xs ++ ys) = body ys := by
  have hmarks : ∀ c ∈ xs, c ≠ '?' ∧ c ≠ '#' := by
    intro c hc
    rcases h c hc with rfl | rfl <;> decide
  have hslashes : ∀ c ∈ slashed xs, decide (c = '/') = true := by
    intro c hc
    obtain ⟨d, hd, rfl⟩ := List.mem_map.1 hc
    rcases h d hd with rfl | rfl <;> decide
  rw [body, beforeQuery_append hmarks, slashed, List.map_append]
  exact List.dropWhile_append_of_pos hslashes

/-- Behind a text that is not all slashes, slashes count. -/
theorem body_append {xs : List Char} (hmarks : ∀ c ∈ xs, c ≠ '?' ∧ c ≠ '#')
    (hsolid : ∃ c ∈ xs, c ≠ '/' ∧ c ≠ '\\') (ys : List Char) :
    body (xs ++ ys) = body xs ++ slashed (beforeQuery ys) := by
  have hslashes : ∃ c ∈ slashed xs, decide (c = '/') = false := by
    obtain ⟨c, hmem, hslash, hback⟩ := hsolid
    refine ⟨c, List.mem_map.2 ⟨c, hmem, if_neg hback⟩, decide_eq_false hslash⟩
  have hself : beforeQuery xs = xs := by
    have happend := beforeQuery_append hmarks []
    simpa [beforeQuery] using happend
  rw [body, body, beforeQuery_append hmarks, hself, slashed, List.map_append]
  exact dropWhile_append_of_mem hslashes _

/-- A path has no part in the authority in front of it. -/
theorem place_append {xs : List Char} (hsolid : ∃ c ∈ xs, c ≠ '/' ∧ c ≠ '\\') (ys : List Char) :
    place (xs ++ '/' :: ys) = place xs := by
  by_cases hmarks : ∃ c ∈ xs, c = '?' ∨ c = '#'
  · rw [place, place, body, body, beforeQuery_append_of_mem hmarks]
  · have hnone : ∀ c ∈ xs, c ≠ '?' ∧ c ≠ '#' := by simpa using hmarks
    rw [place, place, body_append hnone hsolid]
    exact takeWhile_append_of_neg (by simp) _ _

/-- A path stays as it is behind an authority and the path of that. -/
theorem pathText_append {xs : List Char} (hmarks : ∀ c ∈ xs, c ≠ '?' ∧ c ≠ '#')
    (hsolid : ∃ c ∈ xs, c ≠ '/' ∧ c ≠ '\\') (ys : List Char) :
    pathText (xs ++ '/' :: ys) = pathText xs ++ '/' :: slashed (beforeQuery ys) := by
  rw [pathText, pathText, body_append hmarks hsolid]
  exact dropWhile_append_of_neg (by simp) _ _

/-! ## Addresses below a text -/

/-- What is read of a path below an address that starts with a scheme of requests. -/
theorem read_below {scheme base path : String} (hscheme : scheme = "http" ∨ scheme = "https")
    {cs ds : List Char} (hbase : base.toList = scheme.toList ++ ':' :: cs) (hpath : path.toList = '/' :: ds) :
    let rest := visible cs ++ '/' :: visible (ds.reverse.dropWhile isOuterBlank).reverse
    read (base ++ path) = (readAuthority .web scheme (place rest)).map fun authority =>
      { scheme := scheme
        authority := some authority
        path := Segments.text (Segments.read (pathText rest))
        query := (queryText? rest).map (Percent.encoded (isEncodedInQuery scheme))
        fragment := (splitAtChar '#' rest).2.map (Percent.encoded Percent.inFragment) } := by
  intro rest
  refine read_web (kind_of_web hscheme) ?_
  have hclean : clean (base ++ path).toList = scheme.toList ++ ':' :: rest := by
    rw [String.toList_append, hbase, hpath]
    have hvisible : isOuterBlank 'h' = false := by decide
    rcases hscheme with rfl | rfl
    · exact clean_append hvisible ("ttp:".toList ++ cs) ds
    · exact clean_append hvisible ("ttps:".toList ++ cs) ds
  rw [hclean, splitScheme_of_web hscheme]

end PullRequestBot.Url
