import PullRequestBot.Redactor

set_option autoImplicit false

/-! # Masking is exact

What a redactor shows of a text is fixed by the set of non-empty tokens that were added to it: the
characters under an occurrence of one of them are masked, all others stay, and there is always a
result. The order of the tokens and how often each was added do not matter. -/

namespace PullRequestBot.Redactor

/-! ## Which tokens a redactor holds -/

theorem mem_add (redactor : Redactor) (added token : String) :
    token ∈ (redactor.add added).tokens ↔
      token ∈ redactor.tokens ∨ (token = added ∧ token ≠ "") := by
  unfold add
  split
  · next h =>
      rw [iff_self_or]
      rintro ⟨rfl, hne⟩
      exact h.resolve_left hne
  · next h =>
      rw [not_or] at h
      rw [List.mem_append, List.mem_singleton]
      refine or_congr_right (iff_self_and.2 ?_)
      rintro rfl
      exact h.1

theorem mem_foldl_add (redactor : Redactor) (added : List String) (token : String) :
    token ∈ (added.foldl add redactor).tokens ↔
      token ∈ redactor.tokens ∨ (token ∈ added ∧ token ≠ "") := by
  induction added generalizing redactor with
  | nil => simp only [List.foldl_nil, List.not_mem_nil, false_and, or_false]
  | cons first added ih =>
      rw [List.foldl_cons, ih, mem_add, List.mem_cons, or_and_right, or_assoc]

/-- A redactor made by adding tokens holds the non-empty ones. -/
theorem mem_tokens_of_added (added : List String) (token : String) :
    token ∈ (added.foldl add empty).tokens ↔ token ∈ added ∧ token ≠ "" := by
  rw [mem_foldl_add]
  exact or_iff_right List.not_mem_nil

/-! ## What is shown -/

theorem length_masked (redactor : Redactor) (text : List Char) :
    (redactor.masked text).length = text.length :=
  List.length_mapIdx

theorem getElem?_masked (redactor : Redactor) {text : List Char} {i : Nat} (hi : i < text.length) :
    (redactor.masked text)[i]? = some (if redactor.Covers text i then maskChar else text[i]) := by
  rw [masked, List.getElem?_mapIdx, List.getElem?_eq_getElem hi, Option.map_some]

/-- Redactors that hold the same tokens show the same. -/
theorem redact_congr {redactor redactor' : Redactor}
    (h : ∀ token, token ∈ redactor.tokens ↔ token ∈ redactor'.tokens) (text : String) :
    redactor.redact text = redactor'.redact text := by
  have hcovers (i : Nat) : redactor.Covers text.toList i ↔ redactor'.Covers text.toList i := by
    unfold Covers
    simp only [h]
  rw [redact_eq, redact_eq, masked, masked]
  simp only [hcovers]

/-- **Masking is exact.** Whatever tokens were added, masking a text has a result; it has as many
    characters as the text; a character of it is `*` if a non-empty token occurs over that place in
    the text, and the character of the text otherwise; and adding other tokens makes no difference as
    long as the same non-empty ones are among them. -/
theorem redact_exact (added : List String) (text : String) :
    ∃ shown : String,
      (added.foldl add empty).redact? text = some shown ∧
      (added.foldl add empty).redact text = shown ∧
      shown.toList.length = text.toList.length ∧
      (∀ (i : Nat) (hi : i < text.toList.length), shown.toList[i]? = some
        (if ∃ token ∈ added, token ≠ "" ∧ LiesOver token.toList text.toList i then '*'
          else text.toList[i])) ∧
      ∀ others : List String, (∀ token, token ≠ "" → (token ∈ others ↔ token ∈ added)) →
        (others.foldl add empty).redact text = shown := by
  refine ⟨_, redact?_eq _ text, redact_eq _ text, ?_, fun i hi => ?_, fun others hothers => ?_⟩
  · rw [String.toList_ofList, length_masked]
  · have hcovers : (added.foldl add empty).Covers text.toList i ↔
        ∃ token ∈ added, token ≠ "" ∧ LiesOver token.toList text.toList i := by
      unfold Covers
      simp only [mem_tokens_of_added, and_assoc]
    rw [String.toList_ofList, getElem?_masked _ hi]
    simp only [hcovers, maskChar]
  · rw [← redact_eq]
    refine redact_congr (fun token => ?_) text
    rw [mem_tokens_of_added, mem_tokens_of_added, and_congr_left_iff]
    exact hothers token

/-- Both tokens occur twice or overlap: all of their characters are masked. -/
example : ((empty.add "éé").add "éy").redact "xéééy" = "x****" := by cbv

end PullRequestBot.Redactor
