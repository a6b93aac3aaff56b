set_option autoImplicit false

/-! # Binary floating point numbers of 64 bits

A number is its bit pattern: sign, eleven exponent bits, fifty-two fraction bits. `ofRatio` rounds a
quotient of naturals to the nearest number, ties to the even neighbour; every other way to make a
number goes through it, so all arithmetic here is exact up to that one rounding. -/

namespace PullRequestBot

/-- A binary floating point number, by its bit pattern. -/
structure Binary64 where
  bits : UInt64
deriving DecidableEq, Repr

namespace Binary64

/-! ## Reading the bit pattern -/

/-- Whether the sign bit is set. -/
def isNegative (x : Binary64) : Bool :=
  x.bits.toNat / Nat.pow 2 63 == 1

/-- The eleven exponent bits. -/
def exponentBits (x : Binary64) : Nat :=
  x.bits.toNat / Nat.pow 2 52 % 2048

/-- The fifty-two fraction bits. -/
def fractionBits (x : Binary64) : Nat :=
  x.bits.toNat % Nat.pow 2 52

/-- Neither infinite nor a NaN. -/
def isFinite (x : Binary64) : Bool :=
  x.exponentBits < 2047

/-- Not a number. -/
def isNaN (x : Binary64) : Bool :=
  x.exponentBits == 2047 && x.fractionBits != 0

/-- Positive or negative zero. -/
def isZero (x : Binary64) : Bool :=
  x.bits.toNat % Nat.pow 2 63 == 0

/-- The integer significand `m` of a finite number of absolute value `m · 2 ^ e`. -/
def significand (x : Binary64) : Nat :=
  if x.exponentBits = 0 then x.fractionBits else Nat.pow 2 52 + x.fractionBits

/-- The binary exponent `e` of a finite number of absolute value `m · 2 ^ e`. -/
def binaryExponent (x : Binary64) : Int :=
  if x.exponentBits = 0 then -1074 else (x.exponentBits : Int) - 1075

/-- The absolute value of a finite number as a quotient of naturals. -/
def ratio (x : Binary64) : Nat × Nat :=
  if 0 ≤ x.binaryExponent then (x.significand * Nat.pow 2 x.binaryExponent.toNat, 1)
  else (x.significand, Nat.pow 2 (-x.binaryExponent).toNat)

/-! ## Making numbers -/

/-- The number of the given sign and remaining sixty-three bits. -/
def ofParts (negative : Bool) (magnitude : Nat) : Binary64 :=
  ⟨UInt64.ofNat ((if negative then Nat.pow 2 63 else 0) + magnitude)⟩

/-- Zero of the given sign. -/
def zero (negative : Bool) : Binary64 :=
  ofParts negative 0

/-- Infinity of the given sign. -/
def infinity (negative : Bool) : Binary64 :=
  ofParts negative (2047 * Nat.pow 2 52)

/-- The canonical NaN of the given sign. -/
def nan (negative : Bool) : Binary64 :=
  ofParts negative (2047 * Nat.pow 2 52 + Nat.pow 2 51)

/-- The quotient rounded to the nearest natural, ties to the even one. -/
def roundHalfEven (num den : Nat) : Nat :=
  let q := num / den
  let r := num % den
  if 2 * r < den then q
  else if den < 2 * r then q + 1
  else if q % 2 = 0 then q else q + 1

/-- The rounded quotient `num / (den · 2 ^ e)`. -/
def roundAt (num den : Nat) (e : Int) : Nat :=
  if 0 ≤ e then roundHalfEven num (den * Nat.pow 2 e.toNat)
  else roundHalfEven (num * Nat.pow 2 (-e).toNat) den

/-- The binary exponent at which `num / den` has fifty-three integer bits, but no less than the
    smallest one. -/
def exponentFor (num den : Nat) : Int :=
  let guess : Int := (Nat.log2 num : Int) - Nat.log2 den - 52
  let tooLarge :=
    if 0 ≤ guess then num < Nat.pow 2 52 * (den * Nat.pow 2 guess.toNat)
    else num * Nat.pow 2 (-guess).toNat < Nat.pow 2 52 * den
  max (if tooLarge then guess - 1 else guess) (-1074)

/-- The number nearest to `± num / den`, ties to even; infinite beyond the largest one. -/
def ofRatio (negative : Bool) (num den : Nat) : Binary64 :=
  if num = 0 then zero negative
  else
    let e := exponentFor num den
    let m := roundAt num den e
    if m < Nat.pow 2 52 then ofParts negative m
    else
      let magnitude := (e + 1074).toNat * Nat.pow 2 52 + m
      if magnitude < 2047 * Nat.pow 2 52 then ofParts negative magnitude else infinity negative

/-- The number nearest to `± digits · 10 ^ exponent`. Exponents far outside the range are settled
    without computing the power. -/
def ofDecimal (negative : Bool) (digits : Nat) (exponent : Int) : Binary64 :=
  if digits = 0 then zero negative
  else
    let size : Int := (Nat.toDigits 10 digits).length + exponent
    if 400 < size then infinity negative
    else if size < -400 then zero negative
    else if 0 ≤ exponent then ofRatio negative (digits * Nat.pow 10 exponent.toNat) 1
    else ofRatio negative digits (Nat.pow 10 (-exponent).toNat)

/-! ## Arithmetic on finite numbers -/

/-- The absolute value of the product, rounded; the sign of the first factor. -/
def mul (x y : Binary64) : Binary64 :=
  ofRatio x.isNegative (x.ratio.1 * y.ratio.1) (x.ratio.2 * y.ratio.2)

/-- The absolute value of the quotient by a number other than zero, rounded; the sign of the
    dividend. -/
def div (x y : Binary64) : Binary64 :=
  ofRatio x.isNegative (x.ratio.1 * y.ratio.2) (x.ratio.2 * y.ratio.1)

/-- The nearest integer, halves away from zero. -/
def roundHalfAway (x : Binary64) : Int :=
  let (num, den) := x.ratio
  let n : Nat := (2 * num + den) / (2 * den)
  if x.isNegative then -(n : Int) else n

end Binary64

end PullRequestBot
