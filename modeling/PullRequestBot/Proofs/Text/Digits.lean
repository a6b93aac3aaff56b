set_option autoImplicit false

/-! # Rows of digits

A row of digits that no digit follows is the longest one that a text starts with (`takeWhile_digits`). -/

namespace PullRequestBot.Text

/-- A text that does not go on with a digit. -/
def NoDigit (rest : List Char) : Prop :=
  ∀ c ∈ rest.head?, c.isDigit = false

theorem noDigit_nil : NoDigit [] := nofun

theorem noDigit_cons {c : Char} (h : c.isDigit = false) (rest : List Char) : NoDigit (c :: rest) := by
  intro d hd
  obtain rfl : c = d := Option.some.inj hd
  exact h

theorem noDigit_dropWhile (cs : List Char) : NoDigit (cs.dropWhile Char.isDigit) := by
  intro c hc
  have hhead := List.head?_dropWhile_not Char.isDigit cs
  rw [Option.mem_def.1 hc] at hhead
  simpa using hhead

theorem NoDigit.take {rest : List Char} (h : NoDigit rest) (count : Nat) : NoDigit (rest.take count) := by
  cases count with
  | zero => exact noDigit_nil
  | succ count =>
      cases rest with
      | nil => exact noDigit_nil
      | cons c more => exact noDigit_cons (h c rfl) _

theorem isDigit_takeWhile (cs : List Char) : ∀ c ∈ cs.takeWhile Char.isDigit, c.isDigit = true :=
  List.all_eq_true.1 List.all_takeWhile

variable {digits rest : List Char} (hdigits : ∀ c ∈ digits, c.isDigit = true) (hrest : NoDigit rest)

include hdigits hrest

theorem takeWhile_digits : (digits ++ rest).takeWhile Char.isDigit = digits := by
  rw [List.takeWhile_append_of_pos hdigits]
  cases rest with
  | nil => rw [List.takeWhile_nil, List.append_nil]
  | cons c more => rw [List.takeWhile_cons_of_neg (by rw [hrest c rfl]; nofun), List.append_nil]

theorem dropWhile_digits : (digits ++ rest).dropWhile Char.isDigit = rest := by
  rw [List.dropWhile_append_of_pos hdigits]
  cases rest with
  | nil => rfl
  | cons c more => rw [List.dropWhile_cons_of_neg (by rw [hrest c rfl]; nofun)]

end PullRequestBot.Text
