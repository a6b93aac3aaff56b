set_option autoImplicit false

/-! # Words

A number that is kept in a word of a fixed number of bits has bounds: below zero as many numbers as
from zero on if one bit is the sign, and no number below zero otherwise. -/

namespace PullRequestBot.Word

/-- The first natural number that a word of the given number of bits cannot hold. -/
def bound (bits : Nat) : Nat :=
  Nat.pow 2 bits

/-- Whether a word of the given number of bits, one of them for the sign, holds an integer. -/
def holds (bits : Nat) (value : Int) : Bool :=
  -(bound (bits - 1) : Int) ≤ value && value < bound (bits - 1)

theorem holds_iff (bits : Nat) (value : Int) :
    holds bits value ↔ -(bound (bits - 1) : Int) ≤ value ∧ value < bound (bits - 1) := by
  simp [holds]

end PullRequestBot.Word
