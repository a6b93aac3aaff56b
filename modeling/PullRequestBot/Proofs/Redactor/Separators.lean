import PullRequestBot.Proofs.Redactor.Exactness
import PullRequestBot.Text.Split

set_option autoImplicit false

/-! # Masking a text in pieces

No occurrence of a token lies across a character that the token does not hold. So with a separator that no
token holds it makes no difference whether a text is masked and then cut into pieces, or cut first
(`pieces_masked`). -/

namespace PullRequestBot

variable {sep : Char} {token front back : List Char} {redactor : Redactor}

/-! ## Occurrences beside a separator -/

/-- What a text starts with ends before the first character that it does not hold. -/
theorem prefix_append_cons_iff (h : sep ∉ token) : token <+: front ++ sep :: back ↔ token <+: front := by
  induction token generalizing front with
  | nil => exact iff_of_true List.nil_prefix List.nil_prefix
  | cons c token ih =>
      cases front with
      | nil =>
          rw [List.nil_append, List.cons_prefix_cons]
          exact iff_of_false (fun hfirst => h (hfirst.1 ▸ List.mem_cons_self)) nofun
      | cons d front =>
          rw [List.cons_append, List.cons_prefix_cons, List.cons_prefix_cons,
            ih (List.not_mem_of_not_mem_cons h)]

/-- In front of a separator are the occurrences in what stands there. -/
theorem liesOver_front (h : sep ∉ token) {i : Nat} (hi : i < front.length) :
    LiesOver token (front ++ sep :: back) i ↔ LiesOver token front i := by
  refine exists_congr fun start => and_congr_right fun hstart => and_congr_right fun _ => ?_
  rw [List.drop_append_of_le_length (by omega), prefix_append_cons_iff h]

/-- No occurrence lies over a separator. -/
theorem not_liesOver_separator (h : sep ∉ token) :
    ¬ LiesOver token (front ++ sep :: back) front.length := by
  rintro ⟨start, hstart, hlast, hat⟩
  rw [List.drop_append_of_le_length hstart, prefix_append_cons_iff h] at hat
  have hlength := hat.length_le
  rw [List.length_drop] at hlength
  omega

/-- Behind a separator are the occurrences in what stands there. -/
theorem liesOver_back (h : sep ∉ token) (i : Nat) :
    LiesOver token (front ++ sep :: back) (front.length + 1 + i) ↔ LiesOver token back i := by
  have hdrop (start : Nat) :
      (front ++ sep :: back).drop (front.length + 1 + start) = back.drop start := by
    rw [Nat.add_assoc, List.drop_length_add_append, Nat.add_comm 1, List.drop_succ_cons]
  constructor
  · rintro ⟨start, hstart, hlast, hat⟩
    by_cases hfront : start ≤ front.length
    · -- one that starts in front of the separator ends there
      rw [List.drop_append_of_le_length hfront, prefix_append_cons_iff h] at hat
      have hlength := hat.length_le
      rw [List.length_drop] at hlength
      omega
    · obtain ⟨later, rfl⟩ := Nat.exists_eq_add_of_lt (Nat.lt_of_not_le hfront)
      rw [Nat.add_right_comm, hdrop] at hat
      exact ⟨later, by omega, by omega, hat⟩
  · rintro ⟨start, hstart, hlast, hat⟩
    exact ⟨front.length + 1 + start, by omega, by omega, (hdrop start).symm ▸ hat⟩

namespace Redactor

/-! ## Masking beside a separator -/

/-- No token holds the separator. -/
def Spares (redactor : Redactor) (sep : Char) : Prop :=
  ∀ token ∈ redactor.tokens, sep ∉ token.toList

/-- What stands in front of a separator and what stands behind it are masked on their own. -/
theorem masked_append_cons (h : redactor.Spares sep) (front back : List Char) :
    redactor.masked (front ++ sep :: back) =
      redactor.masked front ++ sep :: redactor.masked back := by
  have hfront (i : Nat) (hi : i < front.length) :
      redactor.Covers (front ++ sep :: back) i ↔ redactor.Covers front i :=
    exists_congr fun token => and_congr_right fun htoken => liesOver_front (h token htoken) hi
  have hsep : ¬ redactor.Covers (front ++ sep :: back) front.length := by
    rintro ⟨token, htoken, hover⟩
    exact not_liesOver_separator (h token htoken) hover
  have hback (i : Nat) :
      redactor.Covers (front ++ sep :: back) (i + 1 + front.length) ↔ redactor.Covers back i := by
    rw [Nat.add_comm (i + 1), Nat.add_comm i, ← Nat.add_assoc]
    exact exists_congr fun token => and_congr_right fun htoken => liesOver_back (h token htoken) i
  rw [masked, List.mapIdx_append, List.mapIdx_cons]
  simp only [Nat.zero_add, if_neg hsep, hback]
  refine congrArg (· ++ _) (List.mapIdx_eq_mapIdx_iff.2 fun i hi => ?_)
  simp only [hfront i hi]

theorem masked_eq_nil_iff {text : List Char} : redactor.masked text = [] ↔ text = [] := by
  rw [← List.length_eq_zero_iff, length_masked, List.length_eq_zero_iff]

/-- Masking makes no separators. -/
theorem not_mem_masked (hmask : sep ≠ maskChar) {text : List Char} (h : sep ∉ text) :
    sep ∉ redactor.masked text := by
  intro hmem
  obtain ⟨i, hi, hshown⟩ := List.getElem_of_mem hmem
  simp only [masked, List.getElem_mapIdx] at hshown
  split at hshown
  · exact hmask hshown.symm
  · exact h (hshown ▸ List.getElem_mem _)

/-- **The pieces of a masked text are the masked pieces of the text.** -/
theorem pieces_masked (hmask : sep ≠ maskChar) (h : redactor.Spares sep) (text : List Char) :
    Text.pieces sep (redactor.masked text) = (Text.pieces sep text).map redactor.masked := by
  induction hlength : text.length using Nat.strongRecOn generalizing text with
  | ind length ih =>
    by_cases hmem : sep ∈ text
    · obtain ⟨front, back, rfl, hfront⟩ := List.eq_append_cons_of_mem hmem
      have hshorter : back.length < length := by
        rw [← hlength, List.length_append, List.length_cons]
        omega
      rw [masked_append_cons h, Text.pieces_append (not_mem_masked hmask hfront),
        Text.pieces_append hfront, ih _ hshorter back rfl, List.map_cons]
    · rw [Text.pieces_of_not_mem hmem, Text.pieces_of_not_mem (not_mem_masked hmask hmem),
        List.map_singleton]

end Redactor

end PullRequestBot
