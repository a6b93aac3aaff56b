import PullRequestBot.Proofs.Redactor.Exactness
import PullRequestBot.Proofs.Redactor.Secrecy

set_option autoImplicit false

/-! # Masking a masked text

Masking leaves a text as it is exactly if every token that occurs in it consists of the character that
masks (`redact_eq_self_iff`). A masked text is therefore masked again without a change, unless the
masking has completed an occurrence of a token that holds both that character and others
(`redact_redact_eq_iff`). Where no token mixes the two, masking is idempotent. -/

namespace PullRequestBot.Redactor

variable {redactor : Redactor} {token text : List Char}

/-- A token that consists of the character that masks. -/
def AllMask (token : List Char) : Prop :=
  ∀ c ∈ token, c = maskChar

/-! ## Texts that masking leaves as they are -/

theorem masked_eq_self_iff :
    redactor.masked text = text ↔
      ∀ (i : Nat) (hi : i < text.length), redactor.Covers text i → text[i] = maskChar := by
  constructor
  · intro h i hi hcovers
    have hshown := redactor.getElem?_masked hi
    rw [h, if_pos hcovers, List.getElem?_eq_getElem hi] at hshown
    exact Option.some.inj hshown
  · intro h
    refine List.ext_getElem? fun i => ?_
    by_cases hi : i < text.length
    · rw [redactor.getElem?_masked hi, List.getElem?_eq_getElem hi]
      split
      · next hcovers => rw [h i hi hcovers]
      · rfl
    · have hend : (redactor.masked text).length ≤ i := by
        rw [length_masked]
        exact Nat.le_of_not_lt hi
      rw [List.getElem?_eq_none hend, List.getElem?_eq_none (Nat.le_of_not_lt hi)]

/-- The characters under the occurrences of a token are its own ones. -/
theorem allMask_iff_of_liesOver :
    (∀ (i : Nat) (hi : i < text.length), LiesOver token text i → text[i] = maskChar) ↔
      (token <:+: text → AllMask token) := by
  constructor
  · intro h hoccurs c hc
    obtain ⟨start, hstart, hat⟩ := List.infix_iff_getElem?.1 hoccurs
    obtain ⟨j, hj, rfl⟩ := List.getElem_of_mem hc
    have hpre : token <+: text.drop start := by
      rw [List.prefix_iff_getElem?]
      intro k hk
      rw [List.getElem?_drop, Nat.add_comm start k]
      exact hat k hk
    have hi : j + start < text.length := by omega
    have hover : LiesOver token text (j + start) :=
      ⟨start, Nat.le_add_left start j, by omega, hpre⟩
    have hsame := hat j hj
    rw [List.getElem?_eq_getElem hi] at hsame
    rw [← Option.some.inj hsame]
    exact h (j + start) hi hover
  · rintro h i hi ⟨start, hstart, hlast, hpre⟩
    have hoccurs : token <:+: text := hpre.isInfix.trans (List.drop_suffix start text).isInfix
    have hj : i - start < token.length := by omega
    have hsame := List.prefix_iff_getElem?.1 hpre (i - start) hj
    rw [List.getElem?_drop, Nat.add_sub_cancel' hstart, List.getElem?_eq_getElem hi] at hsame
    rw [Option.some.inj hsame]
    exact h hoccurs _ (List.getElem_mem hj)

/-- Masking changes nothing exactly if the tokens that occur consist of the character that masks. -/
theorem redact_eq_self_iff (redactor : Redactor) (text : String) :
    redactor.redact text = text ↔
      ∀ token ∈ redactor.tokens, token.toList <:+: text.toList → AllMask token.toList := by
  rw [← String.toList_inj, redact_toList, masked_eq_self_iff]
  constructor
  · intro h token htoken
    refine allMask_iff_of_liesOver.1 fun i hi hover => ?_
    exact h i hi ⟨token, htoken, hover⟩
  · rintro h i hi ⟨token, htoken, hover⟩
    exact allMask_iff_of_liesOver.2 (h token htoken) i hi hover

/-- A text in which no token occurs stays as it is. -/
theorem redact_of_hides {text : String} (h : redactor.Hides text) : redactor.redact text = text :=
  (redact_eq_self_iff redactor text).2 fun token htoken hoccurs => absurd hoccurs (h token htoken)

/-! ## Masking twice -/

/-- No token holds both the character that masks and another one. -/
def Unmixed (tokens : List String) : Prop :=
  ∀ token ∈ tokens, maskChar ∈ token.toList → AllMask token.toList

/-- **Masking a masked text** changes nothing exactly if each of the added tokens that occurs in it
    consists of the character that masks. That is so for every text if no added token mixes this
    character with others. -/
theorem redact_redact_eq_iff (added : List String) :
    let redactor : Redactor := added.foldl add empty
    (∀ text, redactor.redact (redactor.redact text) = redactor.redact text ↔
      ∀ token ∈ added, token.toList <:+: (redactor.redact text).toList → AllMask token.toList) ∧
    (Unmixed added → ∀ text, redactor.redact (redactor.redact text) = redactor.redact text) := by
  intro redactor
  have htokens : ∀ token, token ∈ redactor.tokens ↔ token ∈ added ∧ token ≠ "" :=
    mem_tokens_of_added added
  refine ⟨fun text => ?_, fun hunmixed text => (redact_eq_self_iff _ _).2 fun token htoken hoccurs => ?_⟩
  · rw [redact_eq_self_iff]
    constructor
    · intro h token htoken hoccurs
      by_cases hempty : token = ""
      · subst hempty
        exact nofun
      · exact h token ((htokens token).2 ⟨htoken, hempty⟩) hoccurs
    · intro h token htoken hoccurs
      exact h token ((htokens token).1 htoken).1 hoccurs
  · by_cases hmask : maskChar ∈ token.toList
    · exact hunmixed token ((htokens token).1 htoken).1 hmask
    · exact absurd hoccurs (not_infix_redact htoken hmask text)

/-- Masking can complete an occurrence of a token that holds the character that masks, so the next
    masking hides more. -/
theorem masked_text_masked_further :
    let redactor := ["a*"].foldl add empty
    redactor.redact "aa*" = "a**" ∧ redactor.redact (redactor.redact "aa*") = "***" ∧
      redactor.redact (redactor.redact "aa*") ≠ redactor.redact "aa*" := by
  intro redactor
  have hfirst : redactor.redact "aa*" = "a**" := by decide +kernel
  have hsecond : redactor.redact "a**" = "***" := by decide +kernel
  rw [hfirst, hsecond]
  exact ⟨rfl, rfl, by decide⟩

end PullRequestBot.Redactor
