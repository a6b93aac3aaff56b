import PullRequestBot.Web.Url.Reader

set_option autoImplicit false

/-! # Paths of plain segments

A segment is plain if it stands for itself in a path: its characters are letters, digits and the marks that
an address may hold in a path, and it means neither the place itself nor the place above. Reading the path
of plain segments gives the segments back as they are written (`read_pathOf`), and so does reading an
address that ends in such a path (`Site.read_append`). -/

namespace PullRequestBot

namespace Segments

/-! ## Plain characters -/

/-- Characters that stand for themselves in a path. -/
def isPlainChar (c : Char) : Bool :=
  c.isAlphanum || ['-', '_', '.', '~', '!', '$', '&', '\x27', '(', ')', '*', '+', ',', ';', '=', ':',
    '@'].contains c

/-- What a check of each character shows. -/
theorem forall_of_all {property : Char → Prop} [DecidablePred property] {cs : List Char}
    (h : (cs.all fun c => decide (property c)) = true) : ∀ c ∈ cs, property c :=
  fun c hc => of_decide_eq_true (List.all_eq_true.1 h c hc)

theorem lt_of_isPlainChar {c : Char} (h : isPlainChar c = true) : c.toNat < 128 := by
  rw [isPlainChar, Bool.or_eq_true] at h
  rcases h with hletter | hmark
  · change ((decide (65 ≤ c.val ∧ c.val ≤ 90) || (decide (97 ≤ c.val) && decide (c.val ≤ 122))) ||
      (decide (48 ≤ c.val) && decide (c.val ≤ 57))) = true at hletter
    simp only [Bool.or_eq_true, Bool.and_eq_true, decide_eq_true_eq, UInt32.le_iff_toNat_le] at hletter
    change ((65 ≤ c.toNat ∧ c.toNat ≤ 90) ∨ (97 ≤ c.toNat ∧ c.toNat ≤ 122)) ∨
      (48 ≤ c.toNat ∧ c.toNat ≤ 57) at hletter
    omega
  · rw [List.contains_eq_mem, decide_eq_true_eq] at hmark
    exact @forall_of_all (fun mark => mark.toNat < 128) _ _ rfl c hmark

/-- What holds of the plain characters among the first 128 holds of all plain characters. -/
theorem forall_plain {property : Char → Prop}
    (h : ∀ n < 128, isPlainChar (Char.ofNat n) = true → property (Char.ofNat n)) :
    ∀ c, isPlainChar c = true → property c := by
  intro c hc
  have hplain := h c.toNat (lt_of_isPlainChar hc)
  rw [Char.ofNat_toNat] at hplain
  exact hplain hc

/-- Plain characters are visible, none of them divides an address or is encoded in a path, and small
    letters do not make marks out of them. -/
theorem plain_facts : ∀ c, isPlainChar c = true →
    0x20 < c.toNat ∧ Percent.inPath c = false ∧ ['/', '\\', '?', '#'].contains c = false ∧
      c.toLower ≠ '%' ∧ (c.toLower = '.' → c = '.') :=
  forall_plain (by decide +kernel)

/-! ## Plain segments -/

/-- A segment that stands for itself. -/
structure IsPlain (segment : List Char) : Prop where
  chars : ∀ c ∈ segment, isPlainChar c = true
  not_here : segment ≠ ['.']
  not_above : segment ≠ ['.', '.']

instance (segment : List Char) : Decidable (IsPlain segment) :=
  decidable_of_iff (segment.all isPlainChar = true ∧ segment ≠ ['.'] ∧ segment ≠ ['.', '.'])
    ⟨fun h => ⟨List.all_eq_true.1 h.1, h.2.1, h.2.2⟩,
      fun h => ⟨List.all_eq_true.2 h.chars, h.not_here, h.not_above⟩⟩

variable {segment : List Char} {segments : List (List Char)}

theorem IsPlain.not_mem (h : IsPlain segment) {c : Char} (hc : isPlainChar c = false) :
    c ∉ segment := by
  intro hmem
  rw [h.chars c hmem] at hc
  exact absurd hc nofun

theorem IsPlain.percent_not_mem (h : IsPlain segment) : '%' ∉ segment.map Char.toLower := by
  intro hmem
  obtain ⟨c, hc, hlower⟩ := List.mem_map.1 hmem
  exact (plain_facts c (h.chars c hc)).2.2.2.1 hlower

theorem IsPlain.eq_points (h : IsPlain segment) {n : Nat}
    (heq : segment.map Char.toLower = List.replicate n '.') : segment = List.replicate n '.' := by
  obtain ⟨hlength, hpoints⟩ := List.eq_replicate_iff.1 heq
  refine List.eq_replicate_iff.2 ⟨(List.length_map _).symm.trans hlength, fun c hc => ?_⟩
  exact (plain_facts c (h.chars c hc)).2.2.2.2 (hpoints _ (List.mem_map_of_mem hc))

theorem IsPlain.isHere_eq (h : IsPlain segment) : isHere segment = false := by
  rw [isHere, List.contains_eq_mem, decide_eq_false_iff_not]
  intro hmem
  simp only [List.mem_cons, List.not_mem_nil, or_false] at hmem
  rcases hmem with hpoint | hencoded
  · exact h.not_here (h.eq_points (n := 1) hpoint)
  · exact h.percent_not_mem (hencoded ▸ by decide)

theorem IsPlain.isAbove_eq (h : IsPlain segment) : isAbove segment = false := by
  rw [isAbove, List.contains_eq_mem, decide_eq_false_iff_not]
  intro hmem
  simp only [List.mem_cons, List.not_mem_nil, or_false] at hmem
  rcases hmem with hpoints | hencoded | hencoded | hencoded
  · exact h.not_above (h.eq_points (n := 2) hpoints)
  all_goals exact h.percent_not_mem (hencoded ▸ by decide)

/-- The characters of the path of segments. -/
def pathOf (segments : List (List Char)) : List Char :=
  segments.flatMap fun segment => '/' :: segment

theorem text_eq (segments : List (List Char)) : text segments = String.ofList (pathOf segments) := rfl

theorem pathOf_cons (segment : List Char) (segments : List (List Char)) :
    pathOf (segment :: segments) = '/' :: (segment ++ pathOf segments) := rfl

theorem encode_of_plain {cs : List Char} (h : ∀ c ∈ cs, Percent.inPath c = false) :
    Percent.encode Percent.inPath cs = cs := by
  induction cs with
  | nil => rfl
  | cons c rest ih =>
      obtain ⟨hc, hrest⟩ := List.forall_mem_cons.1 h
      rw [Percent.encode, List.flatMap_cons, hc]
      exact congrArg (List.cons c) (ih hrest)

theorem inPath_pathOf (h : ∀ segment ∈ segments, IsPlain segment) :
    ∀ c ∈ pathOf segments, Percent.inPath c = false := by
  intro c hc
  obtain ⟨segment, hsegment, hc⟩ := List.mem_flatMap.1 hc
  rcases List.mem_cons.1 hc with rfl | hc
  · rfl
  · exact (plain_facts c ((h segment hsegment).chars c hc)).2.1

theorem pieces_pathOf (h : ∀ segment ∈ segments, IsPlain segment) :
    Text.pieces '/' (pathOf segments) = [] :: segments := by
  induction segments with
  | nil => rfl
  | cons segment rest ih =>
      obtain ⟨hsegment, hrest⟩ := List.forall_mem_cons.1 h
      rw [pathOf_cons, Text.pieces, if_pos rfl]
      cases rest with
      | nil => 
        rw [pathOf, List.flatMap_nil, List.append_nil,
          Text.pieces_of_not_mem (hsegment.not_mem rfl)]
      | cons next later =>
        have hlater := ih hrest
        rw [pathOf_cons, Text.pieces, if_pos rfl] at hlater
        rw [pathOf_cons, Text.pieces_append (hsegment.not_mem rfl), List.cons.inj hlater |>.2]

theorem normalize_of_plain (done : List (List Char)) (hne : segments ≠ [])
    (h : ∀ segment ∈ segments, IsPlain segment) :
    normalize done segments = done.reverse ++ segments := by
  induction segments generalizing done with
  | nil => exact absurd rfl hne
  | cons segment rest ih =>
      obtain ⟨hsegment, hrest⟩ := List.forall_mem_cons.1 h
      cases rest with
      | nil =>
          rw [normalize, hsegment.isAbove_eq, hsegment.isHere_eq]
          exact List.reverse_cons
      | cons next later =>
          rw [normalize, hsegment.isAbove_eq, hsegment.isHere_eq]
          · have hlater := ih (segment :: done) nofun hrest
            rw [List.reverse_cons, List.append_assoc] at hlater
            exact hlater
          · nofun

/-- A path of plain segments is read as these segments. -/
theorem read_pathOf (hne : segments ≠ []) (h : ∀ segment ∈ segments, IsPlain segment) :
    read (pathOf segments) = segments := by
  cases segments with
  | nil => exact absurd rfl hne
  | cons segment rest =>
      have hpieces := pieces_pathOf h
      rw [pathOf_cons, Text.pieces, if_pos rfl] at hpieces
      have hbody : ∀ c ∈ segment ++ pathOf rest, Percent.inPath c = false :=
        fun c hc => inPath_pathOf h c (List.mem_cons_of_mem _ hc)
      show normalize [] (Text.pieces '/' (Percent.encode Percent.inPath (segment ++ pathOf rest))) = _
      rw [encode_of_plain hbody, (List.cons.inj hpieces).2, normalize_of_plain [] hne h]
      rfl

end Segments

/-! ## Plain texts -/

/-- A text that stands for itself as a segment of a path. -/
abbrev PlainText := { text : String // Segments.IsPlain text.toList }

namespace PlainText

/-- The text, if it is plain. -/
def read? (text : String) : Option PlainText :=
  if h : Segments.IsPlain text.toList then some ⟨text, h⟩ else none

theorem read?_val (text : PlainText) : read? text.val = some text :=
  dif_pos text.property

/-- The segments that texts are. -/
def segments (texts : List PlainText) : List (List Char) :=
  texts.map fun text => text.val.toList

theorem isPlain_segments (texts : List PlainText) :
    ∀ segment ∈ segments texts, Segments.IsPlain segment := by
  intro segment hsegment
  obtain ⟨text, -, rfl⟩ := List.mem_map.1 hsegment
  exact text.property

end PlainText

/-! ## Schemes of requests -/

theorem Url.kind_of_web {scheme : String} (h : scheme = "http" ∨ scheme = "https") :
    SchemeKind.ofScheme scheme = .web := by
  rcases h with rfl | rfl <;> rfl

theorem Url.splitScheme_of_web {scheme : String} (h : scheme = "http" ∨ scheme = "https")
    (rest : List Char) : Url.splitScheme (scheme.toList ++ ':' :: rest) = some (scheme, rest) := by
  rcases h with rfl | rfl <;> rfl

/-! ## Sites -/

/-- A place on the web below which paths are asked for: a scheme, the text of an authority, and the
    segments of a path. -/
structure Site where
  scheme : String
  place : List Char
  front : List (List Char)
  authority : Authority
  scheme_web : scheme = "http" ∨ scheme = "https"
  place_visible : ∀ c ∈ place, 0x20 < c.toNat ∧ ['/', '\\', '?', '#'].contains c = false
  place_read : Url.readAuthority .web scheme place = .ok authority
  front_plain : ∀ segment ∈ front, Segments.IsPlain segment

namespace Site

/-- The address of a site. -/
def text (site : Site) : String :=
  String.ofList (site.scheme.toList ++ ':' :: '/' :: '/' :: (site.place ++ Segments.pathOf site.front))

/-- The address of the path of segments below a site. -/
def below (site : Site) (segments : List (List Char)) : Url where
  scheme := site.scheme
  authority := some site.authority
  path := Segments.text (site.front ++ segments)

variable (site : Site) {segments : List (List Char)}

theorem scheme_kind : SchemeKind.ofScheme site.scheme = .web :=
  Url.kind_of_web site.scheme_web

theorem splitScheme_append (rest : List Char) :
    Url.splitScheme (site.scheme.toList ++ ':' :: rest) = some (site.scheme, rest) :=
  Url.splitScheme_of_web site.scheme_web rest

theorem place_ne_nil : site.place ≠ [] := by
  intro h
  have hread := site.place_read
  rw [h] at hread
  exact absurd hread nofun

theorem clean_of_visible {cs : List Char} (h : ∀ c ∈ cs, 0x20 < c.toNat) : Url.clean cs = cs := by
  have hblank : ∀ c ∈ cs, Url.isOuterBlank c = false := by
    intro c hc
    exact decide_eq_false (Nat.not_le.2 (h c hc))
  have hdrop : ∀ ds : List Char, (∀ c ∈ ds, c ∈ cs) → ds.dropWhile Url.isOuterBlank = ds := by
    intro ds hsub
    cases ds with
    | nil => rfl
    | cons c rest =>
        rw [List.dropWhile_cons, hblank c (hsub c List.mem_cons_self)]
        rfl
  have hkept : ∀ c ∈ cs, (c ≠ '\n' && c ≠ '\r' && c ≠ '\t') = true := by
    intro c hc
    have hvisible := h c hc
    simp only [ne_eq, Bool.and_eq_true, decide_eq_true_eq]
    refine ⟨⟨?_, ?_⟩, ?_⟩ <;> rintro rfl <;> exact absurd hvisible (by decide)
  simp only [Url.clean]
  rw [hdrop cs fun _ hc => hc, hdrop cs.reverse fun _ hc => List.mem_reverse.1 hc, List.reverse_reverse]
  exact List.filter_eq_self.2 hkept

/-- What stands behind the scheme of an address below a site. -/
def tail (segments : List (List Char)) : List Char :=
  '/' :: '/' :: (site.place ++ Segments.pathOf (site.front ++ segments))

theorem plain_below (h : ∀ segment ∈ segments, Segments.IsPlain segment) :
    ∀ segment ∈ site.front ++ segments, Segments.IsPlain segment :=
  List.forall_mem_append.2 ⟨site.front_plain, h⟩

/-- Characters behind the scheme are visible and divide nothing but the path. -/
theorem tail_facts (h : ∀ segment ∈ segments, Segments.IsPlain segment) :
    ∀ c ∈ site.tail segments, 0x20 < c.toNat ∧ ['\\', '?', '#'].contains c = false := by
  have hslash : 0x20 < '/'.toNat ∧ ['\\', '?', '#'].contains '/' = false := by decide
  have hdrop : ∀ c : Char, ['/', '\\', '?', '#'].contains c = false →
      ['\\', '?', '#'].contains c = false := by
    intro c hc
    rw [List.contains_cons, Bool.or_eq_false_iff] at hc
    exact hc.2
  refine List.forall_mem_cons.2 ⟨hslash, List.forall_mem_cons.2 ⟨hslash, ?_⟩⟩
  refine List.forall_mem_append.2 ⟨fun c hc => ?_, fun c hc => ?_⟩
  · exact ⟨(site.place_visible c hc).1, hdrop c (site.place_visible c hc).2⟩
  · obtain ⟨segment, hsegment, hc⟩ := List.mem_flatMap.1 hc
    rcases List.mem_cons.1 hc with rfl | hc
    · exact hslash
    · obtain ⟨hvisible, -, hdivides, -⟩ :=
        Segments.plain_facts c ((site.plain_below h segment hsegment).chars c hc)
      exact ⟨hvisible, hdrop c hdivides⟩

theorem not_mem_tail (h : ∀ segment ∈ segments, Segments.IsPlain segment) {c : Char}
    (hc : ['\\', '?', '#'].contains c = true) : c ∉ site.tail segments := by
  intro hmem
  rw [(site.tail_facts h c hmem).2] at hc
  exact absurd hc nofun

theorem slash_not_mem_place : '/' ∉ site.place := by
  intro hmem
  exact absurd (site.place_visible '/' hmem).2 nofun

/-- The place ends where the path begins. -/
theorem split_place (path : List Char) :
    (site.place ++ '/' :: path).takeWhile (· ≠ '/') = site.place ∧
      (site.place ++ '/' :: path).dropWhile (· ≠ '/') = '/' :: path := by
  have hplace : ∀ c ∈ site.place, decide (c ≠ '/') = true := by
    intro c hc
    refine decide_eq_true ?_
    rintro rfl
    exact site.slash_not_mem_place hc
  rw [List.takeWhile_append_of_pos hplace, List.dropWhile_append_of_pos hplace]
  simp

theorem readWeb_tail (hne : segments ≠ []) (h : ∀ segment ∈ segments, Segments.IsPlain segment) :
    Url.readWeb site.scheme (site.tail segments) =
      .ok (some site.authority, Segments.text (site.front ++ segments)) := by
  have hsame : (site.tail segments).map (fun c => if c = '\\' then '/' else c) = site.tail segments := by
    refine (List.map_congr_left fun c hc => if_neg ?_).trans (List.map_id _)
    rintro rfl
    exact site.not_mem_tail h rfl hc
  have hbody : (site.tail segments).dropWhile (· = '/') =
      site.place ++ Segments.pathOf (site.front ++ segments) := by
    cases hplace : site.place with
    | nil => exact absurd hplace site.place_ne_nil
    | cons c rest =>
        have hc : c ≠ '/' := by
          rintro rfl
          exact site.slash_not_mem_place (hplace ▸ List.mem_cons_self)
        simp [tail, hplace, hc]
  have hpath := site.plain_below h
  cases hsegments : site.front ++ segments with
  | nil => exact absurd (List.append_eq_nil_iff.1 hsegments).2 hne
  | cons segment rest =>
      rw [hsegments] at hbody hpath
      obtain ⟨hplace, hafter⟩ := site.split_place (segment ++ Segments.pathOf rest)
      rw [Segments.pathOf_cons] at hbody
      have hread := Segments.read_pathOf (List.cons_ne_nil segment rest) hpath
      simp only [Url.readWeb]
      rw [hsame, hbody, hplace, hafter, site.place_read, ← Segments.pathOf_cons, hread]
      rfl

theorem splitAtChar_of_not_mem {mark : Char} {cs : List Char} (h : mark ∉ cs) :
    Url.splitAtChar mark cs = (cs, none) := by
  rw [Url.splitAtChar, Text.cut_of_not_mem h]

/-- An address that ends in a plain path below a site. -/
theorem read_append (hne : segments ≠ []) (h : ∀ segment ∈ segments, Segments.IsPlain segment) :
    Url.read (site.text ++ Segments.text segments) = .ok (site.below segments) := by
  have hchars : (site.text ++ Segments.text segments).toList =
      site.scheme.toList ++ ':' :: site.tail segments := by
    rw [String.toList_append, text, Segments.text_eq, String.toList_ofList, String.toList_ofList]
    simp [tail, Segments.pathOf, List.append_assoc]
  have hvisible : ∀ c ∈ site.scheme.toList ++ ':' :: site.tail segments, 0x20 < c.toNat := by
    refine List.forall_mem_append.2 ⟨?_, List.forall_mem_cons.2 ⟨by decide, fun c hc => ?_⟩⟩
    · rcases site.scheme_web with hscheme | hscheme <;> rw [hscheme] <;> exact Segments.forall_of_all rfl
    · exact (site.tail_facts h c hc).1
  unfold Url.read
  rw [hchars, clean_of_visible hvisible, splitScheme_append]
  dsimp only
  rw [splitAtChar_of_not_mem (site.not_mem_tail h rfl),
    splitAtChar_of_not_mem (site.not_mem_tail h rfl), Url.readFront, site.scheme_kind]
  dsimp only
  rw [site.readWeb_tail hne h]
  rfl

end Site

end PullRequestBot
