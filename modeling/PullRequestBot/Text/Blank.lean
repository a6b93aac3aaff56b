set_option autoImplicit false

/-! # Blank characters and trimming

A character is *blank* when it has the Unicode property White_Space. Trimming removes the longest
run of blanks from one or both ends of a text; what is left neither starts nor ends with a blank.
Texts are lists of characters here, so that every statement about them is one about lists. -/

namespace PullRequestBot.Text

/-! ## The class of blanks -/

/-- The characters with the Unicode property White_Space. -/
def isBlank (c : Char) : Bool :=
  let n := c.toNat
  (9 ≤ n && n ≤ 13) || n == 0x20 || n == 0x85 || n == 0xA0 || n == 0x1680 ||
    (0x2000 ≤ n && n ≤ 0x200A) || n == 0x2028 || n == 0x2029 || n == 0x202F || n == 0x205F ||
    n == 0x3000

/-! ## Trimming -/

/-- Drops the blanks at the start. -/
def trimStart (cs : List Char) : List Char :=
  cs.dropWhile isBlank

/-- Drops the blanks at the end. -/
def trimEnd (cs : List Char) : List Char :=
  (cs.reverse.dropWhile isBlank).reverse

/-- Drops the blanks at both ends. -/
def trim (cs : List Char) : List Char :=
  trimEnd (trimStart cs)

theorem trimEnd_prefix (cs : List Char) : trimEnd cs <+: cs := by
  rw [← List.reverse_suffix, trimEnd, List.reverse_reverse]
  exact List.dropWhile_suffix isBlank

theorem trim_infix (cs : List Char) : trim cs <:+: cs := by
  have hend := trimEnd_prefix (trimStart cs)
  exact hend.isInfix.trans (List.dropWhile_suffix isBlank).isInfix

theorem mem_dropWhile {c : Char} {cs : List Char} (h : c ∈ cs) (hblank : isBlank c = false) :
    c ∈ cs.dropWhile isBlank := by
  rw [← List.takeWhile_append_dropWhile (p := isBlank) (l := cs)] at h
  refine (List.mem_append.1 h).resolve_left fun htaken => ?_
  have hc := List.all_eq_true.1 List.all_takeWhile c htaken
  rw [hblank] at hc
  cases hc

/-- Trimming drops nothing but blanks. -/
theorem mem_trim {c : Char} {cs : List Char} (h : c ∈ cs) (hblank : isBlank c = false) : c ∈ trim cs :=
  List.mem_reverse.2 (mem_dropWhile (List.mem_reverse.2 (mem_dropWhile h hblank)) hblank)

/-- A text of blanks only, or of nothing. -/
def isBlankText (cs : List Char) : Bool :=
  cs.all isBlank

/-- `trim` on strings. -/
def strip (s : String) : String :=
  String.ofList (trim s.toList)

/-- `trimEnd` on strings. -/
def stripEnd (s : String) : String :=
  String.ofList (trimEnd s.toList)

/-- A string of blanks only, or of nothing. -/
def isBlankString (s : String) : Bool :=
  isBlankText s.toList

end PullRequestBot.Text
