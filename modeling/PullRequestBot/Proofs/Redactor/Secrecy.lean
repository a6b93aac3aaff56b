import PullRequestBot.Redactor
import PullRequestBot.Text.Blank

set_option autoImplicit false

/-! # Masked texts give no token away

No token occurs in a masked text, as long as no token holds the character that masks
(`hides_redact`). Masking a text could make an occurrence that was not there before; but such an
occurrence would have no masked character, so it would be one of the text before masking, and those
are masked. -/

namespace PullRequestBot.Redactor

/-! ## Texts without tokens -/

/-- No token occurs in a text. -/
def Hides (redactor : Redactor) (text : String) : Prop :=
  ∀ token ∈ redactor.tokens, ¬ token.toList <:+: text.toList

/-- No token holds the character that masks. -/
def Maskable (redactor : Redactor) : Prop :=
  ∀ token ∈ redactor.tokens, maskChar ∉ token.toList

variable {redactor : Redactor}

instance : Decidable redactor.Maskable :=
  inferInstanceAs (Decidable (∀ token ∈ redactor.tokens, _))

/-- A part of a text without tokens has no token. -/
theorem Hides.of_infix {text part : String} (h : redactor.Hides text)
    (hpart : part.toList <:+: text.toList) : redactor.Hides part := by
  intro token htoken hoccurs
  exact h token htoken (hoccurs.trans hpart)

theorem Hides.stripEnd {text : String} (h : redactor.Hides text) :
    redactor.Hides (Text.stripEnd text) := by
  refine h.of_infix ?_
  rw [Text.stripEnd, String.toList_ofList]
  exact (Text.trimEnd_prefix text.toList).isInfix

/-! ## Masking -/

/-- A character that is shown although it is not the one that masks stands in the text, uncovered. -/
theorem of_getElem?_masked {text : List Char} {i : Nat} {c : Char}
    (h : (redactor.masked text)[i]? = some c) (hc : c ≠ maskChar) :
    text[i]? = some c ∧ ¬ redactor.Covers text i := by
  rw [masked, List.getElem?_mapIdx, Option.map_eq_some_iff] at h
  obtain ⟨d, hd, hshown⟩ := h
  split at hshown
  · exact absurd hshown.symm hc
  · next hcovers => exact ⟨hshown ▸ hd, hcovers⟩

/-- A token without the character that masks does not occur in a masked text. -/
theorem not_infix_redact {token : String} (htoken : token ∈ redactor.tokens)
    (h : maskChar ∉ token.toList) (text : String) :
    ¬ token.toList <:+: (redactor.redact text).toList := by
  intro hoccurs
  rw [redact_toList, List.infix_iff_getElem?] at hoccurs
  obtain ⟨start, -, hoccurs⟩ := hoccurs
  have hplain (j : Nat) (hj : j < token.toList.length) :
      text.toList[j + start]? = some token.toList[j] ∧ ¬ redactor.Covers text.toList (j + start) := by
    refine of_getElem?_masked (hoccurs j hj) fun hmask => ?_
    exact h (hmask ▸ List.getElem_mem hj)
  have hpre : token.toList <+: text.toList.drop start := by
    rw [List.prefix_iff_getElem?]
    intro j hj
    rw [List.getElem?_drop, Nat.add_comm start j]
    exact (hplain j hj).1
  have hpos : 0 < token.toList.length := by
    rw [List.length_pos_iff, Ne, String.toList_eq_nil_iff]
    rintro rfl
    exact redactor.nonempty htoken
  -- the first character of the occurrence is covered by it
  refine (hplain 0 hpos).2 ⟨token, htoken, start, ?_, ?_, hpre⟩
  · exact Nat.le_add_left start 0
  · rw [Nat.zero_add]
    exact Nat.lt_add_of_pos_right hpos

/-- **A masked text holds no token.** -/
theorem hides_redact (h : redactor.Maskable) (text : String) :
    redactor.Hides (redactor.redact text) :=
  fun token htoken => not_infix_redact htoken (h token htoken) text

theorem hides_redactCommand (h : redactor.Maskable) (program : String) (arguments : List String) :
    redactor.Hides (redactor.redactCommand program arguments) :=
  hides_redact h (commandLine program arguments)

end PullRequestBot.Redactor
