set_option autoImplicit false

/-! # Cutting texts at characters

A text is cut at the first occurrence of a character (`cut`), at every occurrence (`pieces`), or
into lines (`lines`). Joining the pieces with the separator gives the text back. -/

namespace PullRequestBot.Text

/-! ## The first occurrence -/

/-- The text before and after the first `sep`; `none` when `sep` does not occur. -/
def cut (sep : Char) : List Char → Option (List Char × List Char)
  | [] => none
  | c :: rest =>
    if c = sep then some ([], rest)
    else (cut sep rest).map fun (front, back) => (c :: front, back)

/-- `cut` on strings. -/
def cutString (sep : Char) (s : String) : Option (String × String) :=
  (cut sep s.toList).map fun (front, back) => (String.ofList front, String.ofList back)

theorem eq_append_of_cut {sep : Char} {cs front back : List Char}
    (h : cut sep cs = some (front, back)) : cs = front ++ sep :: back := by
  induction cs generalizing front with
  | nil => simp [cut] at h
  | cons c rest ih =>
    by_cases hc : c = sep
    · simp only [cut, hc, if_true, Option.some.injEq, Prod.mk.injEq] at h
      obtain ⟨rfl, rfl⟩ := h
      simp [hc]
    · simp only [cut, hc, if_false, Option.map_eq_some_iff, Prod.mk.injEq] at h
      obtain ⟨⟨front', back'⟩, hcut, rfl, rfl⟩ := h
      simpa using ih hcut

theorem cut_of_not_mem {sep : Char} {cs : List Char} (h : sep ∉ cs) : cut sep cs = none := by
  induction cs with
  | nil => rfl
  | cons c rest ih =>
    have hc := List.ne_of_not_mem_cons h
    have hrest := List.not_mem_of_not_mem_cons h
    rw [cut, if_neg (Ne.symm hc), ih hrest]
    rfl

theorem cut_append {sep : Char} {front : List Char} (h : sep ∉ front) (back : List Char) :
    cut sep (front ++ sep :: back) = some (front, back) := by
  induction front with
  | nil => rw [List.nil_append, cut, if_pos rfl]
  | cons c rest ih =>
    have hc := List.ne_of_not_mem_cons h
    have hrest := List.not_mem_of_not_mem_cons h
    rw [List.cons_append, cut, if_neg (Ne.symm hc), ih hrest]
    rfl

/-! ## All occurrences -/

/-- The maximal pieces free of `sep`, in order; one more than there are separators. -/
def pieces (sep : Char) : List Char → List (List Char)
  | [] => [[]]
  | c :: rest =>
    if c = sep then [] :: pieces sep rest
    else
      match pieces sep rest with
      | [] => [[c]]
      | piece :: more => (c :: piece) :: more

theorem pieces_of_not_mem {sep : Char} {cs : List Char} (h : sep ∉ cs) : pieces sep cs = [cs] := by
  induction cs with
  | nil => rfl
  | cons c rest ih =>
    have hc := List.ne_of_not_mem_cons h
    have hrest := List.not_mem_of_not_mem_cons h
    rw [pieces, if_neg (Ne.symm hc), ih hrest]

/-- The first piece ends at the first separator. -/
theorem pieces_append {sep : Char} {front : List Char} (h : sep ∉ front) (back : List Char) :
    pieces sep (front ++ sep :: back) = front :: pieces sep back := by
  induction front with
  | nil => rw [List.nil_append, pieces, if_pos rfl]
  | cons c rest ih =>
    have hc := List.ne_of_not_mem_cons h
    have hrest := List.not_mem_of_not_mem_cons h
    rw [List.cons_append, pieces, if_neg (Ne.symm hc), ih hrest]

theorem pieces_ne_nil (sep : Char) (cs : List Char) : pieces sep cs ≠ [] := by
  cases cs with
  | nil => exact List.cons_ne_nil _ _
  | cons c rest =>
    rw [pieces]
    split
    · exact List.cons_ne_nil _ _
    · split <;> exact List.cons_ne_nil _ _

/-- A text without separators in front of another goes into its first piece. -/
theorem pieces_append_of_not_mem {sep : Char} {front back piece : List Char} {more : List (List Char)}
    (h : sep ∉ front) (hback : pieces sep back = piece :: more) :
    pieces sep (front ++ back) = (front ++ piece) :: more := by
  induction front with
  | nil => exact hback
  | cons c rest ih =>
    have hc := List.ne_of_not_mem_cons h
    have hrest := List.not_mem_of_not_mem_cons h
    rw [List.cons_append, pieces, if_neg (Ne.symm hc), ih hrest]
    rfl

/-- The pieces on both sides of a separator. -/
theorem pieces_append_sep (sep : Char) (front back : List Char) :
    pieces sep (front ++ sep :: back) = pieces sep front ++ pieces sep back := by
  induction front with
  | nil => simp [pieces]
  | cons c rest ih =>
    rw [List.cons_append, pieces, pieces, ih]
    split
    · rfl
    · cases hrest : pieces sep rest with
      | nil => exact absurd hrest (pieces_ne_nil sep rest)
      | cons piece more => rfl

/-- What stands before the first separator begins the text. -/
theorem prefix_of_pieces_eq_cons {sep : Char} {cs piece : List Char} {more : List (List Char)}
    (h : pieces sep cs = piece :: more) : piece <+: cs := by
  induction cs generalizing piece more with
  | nil =>
    obtain ⟨rfl, -⟩ := List.cons.inj h
    exact List.prefix_rfl
  | cons c rest ih =>
    rw [pieces] at h
    split at h
    · obtain ⟨rfl, -⟩ := List.cons.inj h
      exact List.nil_prefix
    · split at h
      · obtain ⟨rfl, -⟩ := List.cons.inj h
        exact List.cons_prefix_cons.2 ⟨rfl, List.nil_prefix⟩
      · next first later hpieces =>
        obtain ⟨rfl, -⟩ := List.cons.inj h
        exact List.cons_prefix_cons.2 ⟨rfl, ih hpieces⟩

/-- Every piece is a part of the text. -/
theorem infix_of_mem_pieces {sep : Char} {cs piece : List Char} (h : piece ∈ pieces sep cs) :
    piece <:+: cs := by
  induction cs generalizing piece with
  | nil =>
    obtain rfl := List.mem_singleton.1 h
    exact List.infix_rfl
  | cons c rest ih =>
    have hrest : ∀ piece ∈ pieces sep rest, piece <:+: c :: rest :=
      fun piece hpiece => (ih hpiece).trans (List.suffix_cons c rest).isInfix
    cases hpieces : pieces sep (c :: rest) with
    | nil => exact absurd h (hpieces ▸ List.not_mem_nil)
    | cons first later =>
      rw [hpieces] at h
      rcases List.mem_cons.1 h with rfl | h
      · exact (prefix_of_pieces_eq_cons hpieces).isInfix
      -- the later pieces are pieces of the rest
      · rw [pieces] at hpieces
        split at hpieces
        · exact hrest piece ((List.cons.inj hpieces).2 ▸ h)
        · split at hpieces
          · exact absurd h ((List.cons.inj hpieces).2 ▸ List.not_mem_nil)
          · next next more hnext =>
            obtain ⟨-, rfl⟩ := List.cons.inj hpieces
            exact hrest piece (hnext ▸ List.mem_cons_of_mem _ h)

/-- `pieces` on strings. -/
def piecesOfString (sep : Char) (s : String) : List String :=
  (pieces sep s.toList).map String.ofList

/-! ## Lines -/

/-- Drops one carriage return at the end. -/
def dropFinalReturn (cs : List Char) : List Char :=
  if cs.getLast? = some '\r' then cs.dropLast else cs

/-- The lines of a text: cut at line feeds, a final empty piece left out, and a carriage return
    before a line feed (not one at the very end) taken off. -/
def lines (cs : List Char) : List (List Char) :=
  match (pieces '\n' cs).reverse with
  | [] => []
  | last :: before =>
    before.reverse.map dropFinalReturn ++ if last.isEmpty then [] else [last]

theorem dropFinalReturn_prefix (cs : List Char) : dropFinalReturn cs <+: cs := by
  unfold dropFinalReturn
  split
  · exact List.dropLast_prefix cs
  · exact List.prefix_rfl

/-- Every line is a part of the text. -/
theorem infix_of_mem_lines {cs line : List Char} (h : line ∈ lines cs) : line <:+: cs := by
  have hpieces : ∀ piece ∈ (pieces '\n' cs).reverse, piece <:+: cs :=
    fun piece hpiece => infix_of_mem_pieces (List.mem_reverse.1 hpiece)
  unfold lines at h
  split at h
  · exact absurd h List.not_mem_nil
  · next last before hreverse =>
    rw [hreverse] at hpieces
    rcases List.mem_append.1 h with h | h
    · obtain ⟨piece, hpiece, rfl⟩ := List.mem_map.1 h
      have hmem := List.mem_cons_of_mem last (List.mem_reverse.1 hpiece)
      have hline := dropFinalReturn_prefix piece
      exact hline.isInfix.trans (hpieces piece hmem)
    · split at h
      · exact absurd h List.not_mem_nil
      · obtain rfl := List.mem_singleton.1 h
        exact hpieces line List.mem_cons_self

/-! ## Searching -/

/-- Whether `needle` occurs in the text as a contiguous run of characters. -/
def hasInfix (needle : List Char) : List Char → Bool
  | [] => needle.isEmpty
  | c :: rest => needle.isPrefixOf (c :: rest) || hasInfix needle rest

end PullRequestBot.Text
