import PullRequestBot.Proofs.Web.Division
import PullRequestBot.Proofs.Web.Escape

set_option autoImplicit false

/-! # Paths that are asked for as they are written

Putting a text behind a slash into an address does not always ask for that text: marks end the path, tabs
and line breaks are dropped, blanks at the end too, backslashes become slashes, escapes are read, and
segments of points are carried out. A path without any of these is addressable. The bytes of what is asked
for are the bytes of the path exactly if the path is addressable (`decode_asked_iff`). -/

namespace PullRequestBot

namespace Segments

open Percent (decode encode inPath hasEscape)
open Text (pieces)
open Text.Utf8 (encodeChars encodeChars_injective)

theorem pathOf_append (segments later : List (List Char)) :
    pathOf (segments ++ later) = pathOf segments ++ pathOf later :=
  List.flatMap_append

/-- The path of the pieces of a text is the text behind a slash. -/
theorem pathOf_pieces (cs : List Char) : pathOf (pieces '/' cs) = '/' :: cs := by
  induction cs with
  | nil => rfl
  | cons c rest ih =>
      rw [pieces]
      split
      · next hc => rw [pathOf_cons, ih, hc, List.nil_append]
      · cases hrest : pieces '/' rest with
        | nil => exact absurd hrest (Text.pieces_ne_nil _ rest)
        | cons piece more =>
            rw [hrest, pathOf_cons] at ih
            rw [pathOf_cons, List.cons_append, (List.cons.inj ih).2]

theorem slash_not_mem_byte (b : UInt8) : '/' ∉ Percent.byte b := by
  have hdigit : ∀ n < 16, Digit.upper n ≠ '/' := by decide
  have hbound := b.toNat_lt
  have hhigh := hdigit (b.toNat / 16) (by omega)
  have hlow := hdigit (b.toNat % 16) (by omega)
  simp [Percent.byte, hhigh.symm, hlow.symm]

/-- The pieces of what is encoded are the pieces encoded. -/
theorem pieces_encode (cs : List Char) :
    pieces '/' (encode inPath cs) = (pieces '/' cs).map (encode inPath) := by
  induction cs with
  | nil => rfl
  | cons c rest ih =>
      by_cases hc : c = '/'
      · subst hc
        rw [pieces, if_pos rfl, List.map_cons, ← ih]
        rfl
      · have hblock : '/' ∉ if inPath c then (String.utf8EncodeChar c).flatMap Percent.byte else [c] := by
          split
          · intro hmem
            obtain ⟨b, -, hslash⟩ := List.mem_flatMap.1 hmem
            exact slash_not_mem_byte b hslash
          · simpa using Ne.symm hc
        cases hrest : pieces '/' rest with
        | nil => exact absurd hrest (Text.pieces_ne_nil _ rest)
        | cons piece more =>
            rw [hrest, List.map_cons] at ih
            rw [Percent.encode_cons, Text.pieces_append_of_not_mem hblock ih, pieces, if_neg hc, hrest,
              List.map_cons, Percent.encode_cons]

/-! ## The bytes of a path -/

theorem decode_append_pathOf (cs : List Char) (segments : List (List Char)) :
    decode (cs ++ pathOf segments) = decode cs ++ decode (pathOf segments) := by
  cases segments with
  | nil => rw [pathOf, List.flatMap_nil, List.append_nil, decode, List.append_nil]
  | cons segment rest => exact Percent.decode_append_slash cs _

theorem decode_slash_cons (cs : List Char) : decode ('/' :: cs) = String.utf8EncodeChar '/' ++ decode cs :=
  Percent.decode_cons rfl

/-- How many bytes the path of segments stands for. -/
def weight (segments : List (List Char)) : Nat :=
  (decode (pathOf segments)).length

theorem weight_append (segments later : List (List Char)) :
    weight (segments ++ later) = weight segments + weight later := by
  rw [weight, pathOf_append, decode_append_pathOf, List.length_append]
  rfl

theorem weight_cons (segment : List Char) (segments : List (List Char)) :
    weight (segment :: segments) = (decode segment).length + 1 + weight segments := by
  rw [weight, pathOf_cons, decode_slash_cons, decode_append_pathOf]
  simp only [List.length_append, weight]
  rw [String.length_utf8EncodeChar]
  have hslash : '/'.utf8Size = 1 := rfl
  omega

theorem weight_reverse (segments : List (List Char)) : weight segments.reverse = weight segments := by
  induction segments with
  | nil => rfl
  | cons segment rest ih =>
      rw [List.reverse_cons, weight_append, ih, weight_cons, weight_cons]
      have hempty : weight [] = 0 := rfl
      omega

/-! ## Segments of points -/

theorem toLower_of_large {c : Char} (h : 128 ≤ c.toNat) : c.toLower = c := by
  refine dif_neg ?_
  rintro ⟨-, hle⟩
  have hle : c.toNat ≤ 90 := hle
  omega

/-- What holds of the first 128 characters that become another in small letters holds of all. -/
theorem forall_toLower {d : Char} {property : Char → Prop} (hd : d.toNat < 128)
    (h : ∀ n < 128, (Char.ofNat n).toLower = d → property (Char.ofNat n)) :
    ∀ c : Char, c.toLower = d → property c := by
  intro c hc
  by_cases hlarge : 128 ≤ c.toNat
  · rw [toLower_of_large hlarge] at hc
    rw [hc] at hlarge
    omega
  · have hlow := h c.toNat (by omega)
    rw [Char.ofNat_toNat] at hlow
    exact hlow hc

theorem point_of_toLower : ∀ c : Char, c.toLower = '.' → c = '.' :=
  forall_toLower (by decide) (by decide +kernel)

theorem percent_of_toLower : ∀ c : Char, c.toLower = '%' → c = '%' :=
  forall_toLower (by decide) (by decide +kernel)

theorem two_of_toLower : ∀ c : Char, c.toLower = '2' → c = '2' :=
  forall_toLower (by decide) (by decide +kernel)

theorem digit_of_toLower : ∀ c : Char, c.toLower = 'e' → Digit.value? 16 c = some 14 :=
  forall_toLower (by decide) (by decide +kernel)

/-- A point, as the bytes of a text start with it. -/
theorem decode_point {a : Char} (ha : a.toLower = '.') (rest : List Char) :
    decode (a :: rest) = 46 :: decode rest := by
  obtain rfl := point_of_toLower a ha
  exact Percent.decode_cons rfl

/-- An escaped point, in small or capital letters. -/
theorem decode_escaped_point {a b c : Char} (ha : a.toLower = '%') (hb : b.toLower = '2')
    (hc : c.toLower = 'e') (rest : List Char) : decode (a :: b :: c :: rest) = 46 :: decode rest := by
  obtain rfl := percent_of_toLower a ha
  obtain rfl := two_of_toLower b hb
  have hhigh : Digit.value? 16 '2' = some 2 := rfl
  exact Percent.decode_escape hhigh (digit_of_toLower c hc) rest

/-- A segment that means the place itself stands for a point. -/
theorem decode_of_isHere {segment : List Char} (h : isHere segment = true) : decode segment = [46] := by
  rw [isHere, List.contains_iff_mem] at h
  simp [List.map_eq_cons_iff] at h
  rcases h with ⟨a, rfl, ha⟩ | ⟨a, b, c, rfl, ha, hb, hc⟩
  · rw [decode_point ha, decode]
  · rw [decode_escaped_point ha hb hc, decode]

/-- A segment that means the place above stands for two points. -/
theorem decode_of_isAbove {segment : List Char} (h : isAbove segment = true) : decode segment = [46, 46] := by
  rw [isAbove, List.contains_iff_mem] at h
  simp [List.map_eq_cons_iff] at h
  rcases h with ⟨a, b, rfl, ha, hb⟩ | ⟨a, b, c, d, rfl, ha, hb, hc, hd⟩ | ⟨a, b, c, d, rfl, ha, hb, hc, hd⟩ |
    ⟨a, b, c, d, e, f, rfl, ha, hb, hc, hd, he, hf⟩
  · rw [decode_point ha, decode_point hb, decode]
  · rw [decode_point ha, decode_escaped_point hb hc hd, decode]
  · rw [decode_escaped_point ha hb hc, decode_point hd, decode]
  · rw [decode_escaped_point ha hb hc, decode_escaped_point hd he hf, decode]

/-- A segment that means no place but a name. -/
def IsName (segment : List Char) : Prop :=
  isHere segment = false ∧ isAbove segment = false

theorem weight_goUp (done : List (List Char)) : weight (goUp done) ≤ weight done := by
  cases done with
  | nil => exact Nat.le_refl _
  | cons segment before =>
      rw [goUp]
      split
      · exact Nat.le_refl _
      · rw [weight_cons]
        omega

/-! ## Carrying out segments -/

/-- What segments leave of those kept before them, where others follow; latest first. -/
def carry (done : List (List Char)) : List (List Char) → List (List Char)
  | [] => done
  | segment :: rest =>
    if isAbove segment then carry (goUp done) rest
    else if isHere segment then carry done rest
    else carry (segment :: done) rest

/-- Segments are carried out from left to right. -/
theorem normalize_append (done segments : List (List Char)) {later : List (List Char)} (hne : later ≠ []) :
    normalize done (segments ++ later) = normalize (carry done segments) later := by
  induction segments generalizing done with
  | nil => rfl
  | cons segment rest ih =>
      have hrest : rest ++ later ≠ [] := by simp [hne]
      rw [List.cons_append, normalize, carry, ih, ih, ih]
      · split
        · rfl
        · split <;> rfl
      · exact hrest

/-- Segments that others follow are all kept, or one of them means a place and fewer bytes are kept. -/
theorem carry_or_lighter (done segments : List (List Char)) :
    (∀ segment ∈ segments, IsName segment) ∧ carry done segments = segments.reverse ++ done ∨
      (∃ segment ∈ segments, ¬ IsName segment) ∧
        weight (carry done segments) < weight done + weight segments := by
  -- for whatever was kept before, since each step changes that
  induction segments generalizing done with
  | nil => exact Or.inl ⟨List.forall_mem_nil _, rfl⟩
  | cons segment rest ih =>
      have hle : ∀ done, weight (carry done rest) ≤ weight done + weight rest := by
        intro done
        rcases ih done with ⟨-, hkept⟩ | ⟨-, hlt⟩
        · rw [hkept, weight_append, weight_reverse]
          omega
        · omega
      rw [weight_cons, carry]
      by_cases habove : isAbove segment = true
      · rw [if_pos habove]
        have hrest := hle (goUp done)
        have hup := weight_goUp done
        exact Or.inr ⟨⟨segment, List.mem_cons_self, fun hname => Bool.false_ne_true (hname.2.symm.trans habove)⟩,
          by omega⟩
      · rw [if_neg habove]
        by_cases hhere : isHere segment = true
        · rw [if_pos hhere]
          have hrest := hle done
          exact Or.inr ⟨⟨segment, List.mem_cons_self, fun hname => Bool.false_ne_true (hname.1.symm.trans hhere)⟩,
            by omega⟩
        · rw [if_neg hhere]
          have hname : IsName segment := ⟨by simpa using hhere, by simpa using habove⟩
          rcases ih (segment :: done) with ⟨hnames, hkept⟩ | ⟨⟨place, hmem, hplace⟩, hlt⟩
          · exact Or.inl ⟨List.forall_mem_cons.2 ⟨hname, hnames⟩, by simp [hkept]⟩
          · rw [weight_cons] at hlt
            exact Or.inr ⟨⟨place, List.mem_cons_of_mem _ hmem, hplace⟩, by omega⟩

/-- The last segment is kept, or it means a place and fewer bytes are kept. -/
theorem last_or_lighter (done : List (List Char)) (last : List Char) :
    IsName last ∧ normalize done [last] = done.reverse ++ [last] ∨
      ¬ IsName last ∧ weight (normalize done [last]) < weight done + weight [last] := by
  have hempty : weight [] = 0 := rfl
  have hnothing : (decode []).length = 0 := rfl
  rw [weight_cons, normalize]
  by_cases habove : isAbove last = true
  · have hup := weight_goUp done
    rw [if_pos habove, weight_reverse, weight_cons, decode_of_isAbove habove, List.length_cons]
    exact Or.inr ⟨fun hname => Bool.false_ne_true (hname.2.symm.trans habove), by omega⟩
  · rw [if_neg habove]
    by_cases hhere : isHere last = true
    · rw [if_pos hhere, weight_reverse, weight_cons, decode_of_isHere hhere, List.length_cons]
      exact Or.inr ⟨fun hname => Bool.false_ne_true (hname.1.symm.trans hhere), by omega⟩
    · rw [if_neg hhere]
      exact Or.inl ⟨⟨by simpa using hhere, by simpa using habove⟩, List.reverse_cons⟩

/-- Segments are all kept, or one of them means a place and fewer bytes are kept. -/
theorem normalize_or_lighter (done : List (List Char)) {segments : List (List Char)} (hne : segments ≠ []) :
    (∀ segment ∈ segments, IsName segment) ∧ normalize done segments = done.reverse ++ segments ∨
      (∃ segment ∈ segments, ¬ IsName segment) ∧
        weight (normalize done segments) < weight done + weight segments := by
  -- the last segment stands apart: points there leave an empty segment
  obtain ⟨front, last, rfl⟩ := (List.eq_nil_or_concat' segments).resolve_left hne
  rw [normalize_append done front (List.cons_ne_nil last []), weight_append]
  rcases carry_or_lighter done front with ⟨hnames, hkept⟩ | ⟨⟨place, hmem, hplace⟩, hlt⟩
  · rw [hkept]
    rcases last_or_lighter (front.reverse ++ done) last with ⟨hname, hlast⟩ | ⟨hplace, hlt⟩
    · refine Or.inl ⟨List.forall_mem_append.2 ⟨hnames, List.forall_mem_singleton.2 hname⟩, ?_⟩
      rw [hlast]
      simp
    · rw [weight_append, weight_reverse] at hlt
      exact Or.inr ⟨⟨last, by simp, hplace⟩, by omega⟩
  · refine Or.inr ⟨⟨place, List.mem_append_left _ hmem, hplace⟩, ?_⟩
    rcases last_or_lighter (carry done front) last with ⟨-, hlast⟩ | ⟨-, hlast⟩
    · rw [hlast, weight_append, weight_reverse]
      omega
    · omega

/-- A text without escapes means a place in a path only if it is written as points. -/
theorem isName_encode_iff {piece : List Char} (h : hasEscape piece = false) :
    IsName (encode inPath piece) ↔ piece ≠ ['.'] ∧ piece ≠ ['.', '.'] := by
  have hbytes : decode (encode inPath piece) = encodeChars piece := by
    rw [Percent.decode_encode, Percent.decode_of_not_hasEscape h]
  constructor
  · rintro ⟨hhere, habove⟩
    constructor
    · rintro rfl
      exact absurd hhere (by decide)
    · rintro rfl
      exact absurd habove (by decide)
  · rintro ⟨hhere, habove⟩
    constructor
    · refine Bool.eq_false_iff.2 fun hplace => hhere (encodeChars_injective ?_)
      rw [← hbytes, decode_of_isHere hplace]
      rfl
    · refine Bool.eq_false_iff.2 fun hplace => habove (encodeChars_injective ?_)
      rw [← hbytes, decode_of_isAbove hplace]
      rfl

end Segments

namespace Url

open Percent (decode encode inPath hasEscape)
open Segments (IsName normalize pathOf weight)
open Text (pieces)
open Text.Utf8 (encodeChars encodeChars_injective)

/-! ## Addressable paths -/

/-- Characters that end a path, are dropped from it, or become slashes. -/
def lostChars : List Char := ['\\', '?', '#', '\t', '\n', '\r']

/-- A text that is asked for as it is written, in front of others. -/
structure IsClear (cs : List Char) : Prop where
  chars : ∀ c ∈ cs, c ∉ lostChars
  no_escape : hasEscape cs = false
  names : ∀ piece ∈ pieces '/' cs, piece ≠ ['.'] ∧ piece ≠ ['.', '.']

/-- A path that is asked for as it is written: it does not end in a blank, either. -/
structure IsAddressable (path : List Char) : Prop extends IsClear path where
  ending : ∀ c ∈ path.getLast?, isOuterBlank c = false

instance (cs : List Char) : Decidable (IsClear cs) :=
  decidable_of_iff ((cs.all fun c => !lostChars.contains c) = true ∧ hasEscape cs = false ∧
      ((pieces '/' cs).all fun piece => decide (piece ≠ ['.'] ∧ piece ≠ ['.', '.'])) = true)
    ⟨fun h => ⟨by simpa using h.1, h.2.1, by simpa using h.2.2⟩,
      fun h => ⟨by simpa using h.chars, h.no_escape, by simpa using h.names⟩⟩

instance (path : List Char) : Decidable (IsAddressable path) :=
  decidable_of_iff (IsClear path ∧ (path.getLast?.all fun c => !isOuterBlank c) = true)
    ⟨fun h => ⟨h.1, by simpa [Option.all_eq_true] using h.2⟩,
      fun h => ⟨h.toIsClear, by simpa [Option.all_eq_true] using h.ending⟩⟩

variable {xs ys : List Char}

/-- Texts on both sides of a slash. -/
theorem isClear_append_slash : IsClear (xs ++ '/' :: ys) ↔ IsClear xs ∧ IsClear ys := by
  constructor
  · intro h
    have hchars := List.forall_mem_append.1 h.chars
    have hnames := h.names
    have hescape := h.no_escape
    rw [Text.pieces_append_sep, List.forall_mem_append] at hnames
    rw [Percent.hasEscape_append_slash, Bool.or_eq_false_iff] at hescape
    exact ⟨⟨hchars.1, hescape.1, hnames.1⟩, ⟨(List.forall_mem_cons.1 hchars.2).2, hescape.2, hnames.2⟩⟩
  · rintro ⟨hxs, hys⟩
    refine ⟨List.forall_mem_append.2 ⟨hxs.chars, List.forall_mem_cons.2 ⟨by decide, hys.chars⟩⟩, ?_, ?_⟩
    · rw [Percent.hasEscape_append_slash, hxs.no_escape, hys.no_escape]
      rfl
    · rw [Text.pieces_append_sep]
      exact List.forall_mem_append.2 ⟨hxs.names, hys.names⟩

theorem isClear_slash_cons : IsClear ('/' :: ys) ↔ IsClear ys := by
  rw [← List.nil_append ('/' :: ys), isClear_append_slash]
  exact and_iff_right (by decide)

theorem isAddressable_append_slash : IsAddressable (xs ++ '/' :: ys) ↔ IsClear xs ∧ IsAddressable ys := by
  have hending : (∀ c ∈ (xs ++ '/' :: ys).getLast?, isOuterBlank c = false) ↔
      ∀ c ∈ ys.getLast?, isOuterBlank c = false := by
    rw [List.getLast?_append_cons]
    cases ys with
    | nil => simp [isOuterBlank]
    | cons c rest => rw [List.getLast?_cons_cons]
  constructor
  · intro h
    obtain ⟨hxs, hys⟩ := isClear_append_slash.1 h.toIsClear
    exact ⟨hxs, ⟨hys, hending.1 h.ending⟩⟩
  · rintro ⟨hxs, hys⟩
    exact ⟨isClear_append_slash.2 ⟨hxs, hys.toIsClear⟩, hending.2 hys.ending⟩

theorem isAddressable_slash_cons : IsAddressable ('/' :: ys) ↔ IsAddressable ys := by
  rw [← List.nil_append ('/' :: ys), isAddressable_append_slash]
  exact and_iff_right (by decide)

/-- A number is asked for as it is written. -/
theorem isAddressable_of_isDigit {cs : List Char} (h : ∀ c ∈ cs, c.isDigit = true) : IsAddressable cs := by
  have hnot : ∀ c : Char, c.isDigit = false → c ∉ cs := by
    intro c hother hmem
    rw [h c hmem] at hother
    exact absurd hother nofun
  refine ⟨⟨fun c hc hlost => ?_, Percent.hasEscape_of_not_mem (hnot '%' rfl), fun piece hpiece => ?_⟩,
    fun c hc => ?_⟩
  · have hothers : ∀ lost ∈ lostChars, lost.isDigit = false := by simp [lostChars]
    exact hnot c (hothers c hlost) hc
  · rw [Text.pieces_of_not_mem (hnot '/' rfl)] at hpiece
    obtain rfl := List.mem_singleton.1 hpiece
    constructor
    · rintro rfl
      exact hnot '.' rfl List.mem_cons_self
    · rintro rfl
      exact hnot '.' rfl List.mem_cons_self
  · have hfirst : 48 ≤ c.toNat := (Char.isDigit_iff_toNat.1 (h c (List.mem_of_getLast? hc))).1
    exact decide_eq_false (by omega)

/-! ## What is asked for -/

/-- What is left of a text at the end of an address, but for the slashes. -/
def asked (cs : List Char) : List Char :=
  beforeQuery (visible (cs.reverse.dropWhile isOuterBlank).reverse)

theorem sublist_trimmed (cs : List Char) : (cs.reverse.dropWhile isOuterBlank).reverse.Sublist cs := by
  have hsub := (List.dropWhile_sublist isOuterBlank (l := cs.reverse)).reverse
  rwa [List.reverse_reverse] at hsub

theorem asked_sublist_trimmed (cs : List Char) :
    (asked cs).Sublist (cs.reverse.dropWhile isOuterBlank).reverse :=
  (List.takeWhile_sublist _).trans List.filter_sublist

theorem asked_sublist (cs : List Char) : (asked cs).Sublist cs :=
  (asked_sublist_trimmed cs).trans (sublist_trimmed cs)

theorem mem_asked {c : Char} {cs : List Char} (h : c ∈ asked cs) :
    c ≠ '?' ∧ c ≠ '#' ∧ c ≠ '\t' ∧ c ≠ '\n' ∧ c ≠ '\r' := by
  unfold asked beforeQuery at h
  obtain ⟨-, hline, hreturn, htab⟩ := mem_visible.1 ((List.takeWhile_sublist _).subset h)
  have hmarks := List.mem_takeWhile_imp h
  simp only [decide_eq_true_eq] at hmarks
  exact ⟨hmarks.1, hmarks.2, htab, hline, hreturn⟩

/-- A text does not get shorter if and only if nothing in it is dropped. -/
theorem asked_eq_self_iff {cs : List Char} : asked cs = cs ↔
    (∀ c ∈ cs, c ≠ '?' ∧ c ≠ '#' ∧ c ≠ '\t' ∧ c ≠ '\n' ∧ c ≠ '\r') ∧
      ∀ c ∈ cs.getLast?, isOuterBlank c = false := by
  constructor
  · intro h
    have hsub := asked_sublist_trimmed cs
    rw [h] at hsub
    refine ⟨fun c hc => mem_asked (h.symm ▸ hc), fun c hc => ?_⟩
    obtain ⟨front, rfl⟩ := List.getLast?_eq_some_iff.1 hc
    -- a blank at the end is dropped, and then the text is longer than what is left of it
    by_contra hblank
    rw [Bool.not_eq_false] at hblank
    rw [List.reverse_append, List.reverse_singleton, List.singleton_append,
      List.dropWhile_cons_of_pos hblank] at hsub
    have hlength := (hsub.trans (sublist_trimmed front)).length_le
    rw [List.length_append, List.length_singleton] at hlength
    omega
  · rintro ⟨hchars, hending⟩
    have htrimmed : (cs.reverse.dropWhile isOuterBlank).reverse = cs := by
      rcases List.eq_nil_or_concat' cs with rfl | ⟨front, c, rfl⟩
      · rfl
      · have hc := hending c (by simp)
        rw [List.reverse_append, List.reverse_singleton, List.singleton_append,
          List.dropWhile_cons_of_neg (by simp [hc])]
        simp
    rw [asked, htrimmed, visible_eq_self fun c hc => ?_, beforeQuery, List.takeWhile_eq_self_iff.2 fun c hc => ?_]
    · exact decide_eq_true ⟨(hchars c hc).1, (hchars c hc).2.1⟩
    · exact ⟨(hchars c hc).2.2.2.1, (hchars c hc).2.2.2.2, (hchars c hc).2.2.1⟩

theorem slashed_eq_self_iff {cs : List Char} : slashed cs = cs ↔ '\\' ∉ cs := by
  induction cs with
  | nil => simp [slashed]
  | cons c rest ih =>
      rw [slashed, List.map_cons, List.cons.injEq, ← slashed, ih, List.mem_cons, not_or]
      refine and_congr_left fun _ => ?_
      by_cases hc : c = '\\'
      · subst hc
        decide
      · simp [hc, Ne.symm hc]

/-- Slashes have as many bytes as backslashes. -/
theorem length_slashed (cs : List Char) : (encodeChars (slashed cs)).length = (encodeChars cs).length := by
  induction cs with
  | nil => rfl
  | cons c rest ih =>
      have hc : (String.utf8EncodeChar (if c = '\\' then '/' else c)).length =
          (String.utf8EncodeChar c).length := by
        split
        · next hback => rw [hback]; rfl
        · rfl
      rw [slashed, List.map_cons, ← slashed, Text.Utf8.encodeChars_cons, Text.Utf8.encodeChars_cons,
        List.length_append, List.length_append, hc, ih]

/-- The segments that are asked for below those kept already, latest first. -/
def segmentsBelow (done : List (List Char)) (cs : List Char) : List (List Char) :=
  normalize done (pieces '/' (encode inPath (slashed (asked cs))))

theorem isAddressable_iff {cs : List Char} : IsAddressable cs ↔
    asked cs = cs ∧ slashed cs = cs ∧ hasEscape cs = false ∧
      ∀ segment ∈ pieces '/' (encode inPath cs), IsName segment := by
  have hnames : hasEscape cs = false → ((∀ segment ∈ pieces '/' (encode inPath cs), IsName segment) ↔
      ∀ piece ∈ pieces '/' cs, piece ≠ ['.'] ∧ piece ≠ ['.', '.']) := by
    intro hnone
    rw [Segments.pieces_encode, List.forall_mem_map]
    refine forall₂_congr fun piece hpiece => Segments.isName_encode_iff (Bool.eq_false_iff.2 fun hescape => ?_)
    have hwhole := Percent.hasEscape_of_infix (Text.infix_of_mem_pieces hpiece) hescape
    exact Bool.false_ne_true (hnone.symm.trans hwhole)
  rw [asked_eq_self_iff, slashed_eq_self_iff]
  constructor
  · intro h
    have hchars : ∀ c ∈ cs, c ≠ '\\' ∧ c ≠ '?' ∧ c ≠ '#' ∧ c ≠ '\t' ∧ c ≠ '\n' ∧ c ≠ '\r' := by
      intro c hc
      simpa [lostChars] using h.chars c hc
    exact ⟨⟨fun c hc => (hchars c hc).2, h.ending⟩, fun hback => (hchars _ hback).1 rfl, h.no_escape,
      (hnames h.no_escape).2 h.names⟩
  · rintro ⟨⟨hchars, hending⟩, hback, hnone, hsegments⟩
    refine ⟨⟨fun c hc => ?_, hnone, (hnames hnone).1 hsegments⟩, hending⟩
    have hc' : c ≠ '\\' := by
      rintro rfl
      exact hback hc
    simp [lostChars, hc', hchars c hc]

/-- An addressable path is asked for as it is written, but for the characters that are encoded. -/
theorem segmentsBelow_of_isAddressable {cs : List Char} (h : IsAddressable cs) (done : List (List Char)) :
    segmentsBelow done cs = done.reverse ++ pieces '/' (encode inPath cs) := by
  obtain ⟨hasked, hslashed, -, hnames⟩ := isAddressable_iff.1 h
  rw [segmentsBelow, hasked, hslashed]
  rcases Segments.normalize_or_lighter done (Text.pieces_ne_nil '/' (encode inPath cs)) with
    ⟨-, hkept⟩ | ⟨⟨place, hmem, hplace⟩, -⟩
  · exact hkept
  · exact absurd (hnames place hmem) hplace

/-- The bytes of what is asked for are those of the text behind a slash exactly if the text is
    addressable. -/
theorem decode_asked_iff (done : List (List Char)) (cs : List Char) :
    decode (pathOf (segmentsBelow done cs)) = decode (pathOf done.reverse) ++ encodeChars ('/' :: cs) ↔
      IsAddressable cs := by
  have hpieces : decode (pathOf (pieces '/' (encode inPath (slashed (asked cs))))) =
      String.utf8EncodeChar '/' ++ decode (slashed (asked cs)) := by
    rw [Segments.pathOf_pieces, Segments.decode_slash_cons, Percent.decode_encode]
  constructor
  · intro h
    -- every step on the way from the text to the segments can only lose bytes, and none was lost
    have hweight := congrArg List.length h
    have hbody := congrArg List.length hpieces
    have hslashes := length_slashed (asked cs)
    rw [List.length_append] at hweight hbody
    change weight (segmentsBelow done cs) = weight done.reverse + _ at hweight
    change weight (pieces '/' (encode inPath (slashed (asked cs)))) = _ at hbody
    rw [Segments.weight_reverse, Text.Utf8.encodeChars_cons, List.length_append] at hweight
    have hlost : asked cs ≠ cs → (encodeChars (asked cs)).length < (encodeChars cs).length :=
      Text.Utf8.length_encodeChars_lt (asked_sublist cs)
    have hle : (encodeChars (asked cs)).length ≤ (encodeChars cs).length := by
      by_cases hasked : asked cs = cs
      · rw [hasked]
      · exact Nat.le_of_lt (hlost hasked)
    rcases Segments.normalize_or_lighter done (Text.pieces_ne_nil '/'
      (encode inPath (slashed (asked cs)))) with ⟨hnames, hkept⟩ | ⟨-, hlighter⟩
    · change segmentsBelow done cs = _ at hkept
      rw [hkept, Segments.weight_append, Segments.weight_reverse] at hweight
      rcases Percent.decode_or_shorter (slashed (asked cs)) with ⟨hnone, hbytes⟩ | ⟨-, hshorter⟩
      · have hasked : asked cs = cs := by
          by_contra hne
          have hlt := hlost hne
          rw [hbytes] at hbody
          omega
        rw [hkept, Segments.pathOf_append, Segments.decode_append_pathOf, hpieces, hbytes] at h
        have hslashed : slashed (asked cs) = cs :=
          encodeChars_injective (List.append_cancel_left (List.append_cancel_left h))
        rw [hslashed] at hnone hnames
        rw [hasked] at hslashed
        exact isAddressable_iff.2 ⟨hasked, hslashed, hnone, hnames⟩
      · omega
    · change weight (segmentsBelow done cs) < _ at hlighter
      rcases Percent.decode_or_shorter (slashed (asked cs)) with ⟨-, hbytes⟩ | ⟨-, hshorter⟩
      · rw [hbytes] at hbody
        omega
      · omega
  · intro h
    obtain ⟨hasked, hslashed, hnone, -⟩ := isAddressable_iff.1 h
    rw [hasked, hslashed, Percent.decode_of_not_hasEscape hnone] at hpieces
    rw [segmentsBelow_of_isAddressable h, Segments.pathOf_append, Segments.decode_append_pathOf, hpieces]
    rfl

end Url

end PullRequestBot
