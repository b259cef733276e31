/-!
# Binary64 numbers

A binary64 number as exact data: a sign, a significand below `2 ^ 53` and a power of two, or one
of the special numbers. Every number is built by `ofRatio`, which rounds a quotient to the
nearest representable one and a tie to the even significand, so equal numbers are equal data.
The module also holds the exact reading of a number as a quotient, which is what comparisons use.
-/

namespace PagedForm

/-- A binary64 number. A finite one stands for `± significand * 2 ^ exponent`. -/
inductive Binary64 where
  | nan
  | infinite (negative : Bool)
  | finite (negative : Bool) (significand : Nat) (exponent : Int)
  deriving DecidableEq, Repr

/-- The exact meaning of a number: a quotient with a positive denominator, an infinity, or
nothing. -/
inductive Extended where
  | undefined
  | infinite (negative : Bool)
  | ratio (num : Int) (den : Nat)
  deriving DecidableEq, Repr

namespace Extended

/-- The meaning of an integer. -/
def ofInt (n : Int) : Extended :=
  .ratio n 1

/-- Two meanings are the same number; nothing is equal to the undefined one. -/
def equal : Extended → Extended → Bool
  | .infinite a, .infinite b => a == b
  | .ratio a b, .ratio c d => a * d == c * b
  | _, _ => false

/-- The first meaning lies below the second; the undefined one is incomparable. -/
def less : Extended → Extended → Bool
  | .infinite a, .infinite b => a && !b
  | .infinite a, .ratio _ _ => a
  | .ratio _ _, .infinite b => !b
  | .ratio a b, .ratio c d => a * d < c * b
  | _, _ => false

/-- Comparing integers by their meanings is comparing integers. -/
theorem less_ofInt (a b : Int) : less (ofInt a) (ofInt b) = decide (a < b) := by
  simp [less, ofInt]

/-- Integers have the same meaning exactly when they are equal. -/
theorem equal_ofInt (a b : Int) : equal (ofInt a) (ofInt b) = decide (a = b) := by
  simp only [equal, ofInt, Int.cast_ofNat_Int, Int.mul_one]
  exact Bool.eq_iff_iff.2 (by simp)

end Extended

/-- A power of two. -/
def twoTo (n : Nat) : Nat :=
  Nat.pow 2 n

/-- A power of ten. -/
def tenTo (n : Nat) : Nat :=
  Nat.pow 10 n

/-- A quotient rounded to the nearest natural number, a tie to the even one. -/
def roundDiv (num den : Nat) : Nat :=
  let quotient := num / den
  let rest := 2 * (num % den)
  if rest < den then quotient
  else if den < rest then quotient + 1
  else if quotient % 2 = 0 then quotient else quotient + 1

/-- A quotient that divides evenly is not changed by rounding. -/
theorem roundDiv_mul (n den : Nat) (h : 0 < den) : roundDiv (n * den) den = n := by
  simp [roundDiv, Nat.mul_div_cancel _ h, h]

/-- A rounded quotient is the floor or the next number. -/
theorem roundDiv_le (num den : Nat) : roundDiv num den ≤ num / den + 1 := by
  simp only [roundDiv]
  split
  · omega
  · split
    · omega
    · split <;> omega

namespace Binary64

/-- The smallest exponent of a finite number. -/
def minExponent : Int := -1074

/-- The largest exponent of a finite number. -/
def maxExponent : Int := 971

/-- Zero with a sign. -/
def signedZero (negative : Bool) : Binary64 :=
  .finite negative 0 minExponent

/-- The quotient `num / den` divided by a power of two, as a quotient. -/
def dividePower (num den : Nat) (exponent : Int) : Nat × Nat :=
  if exponent < 0 then (num * twoTo (-exponent).toNat, den)
  else (num, den * twoTo exponent.toNat)

/-- The exponent at which a positive quotient has a significand of 53 bits, or the smallest
exponent when the quotient is too small for that. -/
def exponentOf (num den : Nat) : Int :=
  let guess : Int := (Nat.log2 num : Int) - (Nat.log2 den : Int) - 52
  let scaled := dividePower num den guess
  let exponent := if scaled.1 < twoTo 52 * scaled.2 then guess - 1 else guess
  max minExponent exponent

/-- The number nearest to `± num / den`, a tie going to the even significand. -/
def ofRatio (negative : Bool) (num den : Nat) : Binary64 :=
  if num = 0 then signedZero negative
  else
    let exponent := exponentOf num den
    let scaled := dividePower num den exponent
    let significand := roundDiv scaled.1 scaled.2
    let (significand, exponent) :=
      if significand = twoTo 53 then (twoTo 52, exponent + 1) else (significand, exponent)
    if maxExponent < exponent then .infinite negative
    else .finite negative significand exponent

/-- The count of decimal digits of a number. -/
def decimalLength (n : Nat) : Nat :=
  (Nat.toDigits 10 n).length

/-- The number nearest to `± digits * 10 ^ exponent`. Magnitudes far outside the range are
settled without computing the power. -/
def ofDecimal (negative : Bool) (digits : Nat) (exponent : Int) : Binary64 :=
  if digits = 0 then signedZero negative
  else
    let magnitude : Int := decimalLength digits + exponent
    if 400 < magnitude then .infinite negative
    else if magnitude < -400 then signedZero negative
    else if exponent < 0 then ofRatio negative digits (tenTo (-exponent).toNat)
    else ofRatio negative (digits * tenTo exponent.toNat) 1

/-- The number nearest to an integer, unless the integer lies beyond the finite numbers. -/
def ofInt? (n : Int) : Option Binary64 :=
  match ofRatio (n < 0) n.natAbs 1 with
  | .finite negative significand exponent => some (.finite negative significand exponent)
  | _ => none

/-- The exact meaning of a number. -/
def exact : Binary64 → Extended
  | .nan => .undefined
  | .infinite negative => .infinite negative
  | .finite negative significand exponent =>
      let magnitude : Nat × Nat :=
        if exponent < 0 then (significand, twoTo (-exponent).toNat)
        else (significand * twoTo exponent.toNat, 1)
      .ratio (if negative then -(magnitude.1 : Int) else magnitude.1) magnitude.2

/-- A number is zero, of either sign. -/
def isZero : Binary64 → Bool
  | .finite _ significand _ => significand == 0
  | _ => false

/-- A number multiplied by a power of two. -/
def timesPower (power : Nat) : Binary64 → Binary64
  | .finite negative significand exponent =>
      if exponent < 0 then
        ofRatio negative (significand * twoTo power) (twoTo (-exponent).toNat)
      else ofRatio negative (significand * twoTo exponent.toNat * twoTo power) 1
  | other => other

end Binary64

end PagedForm
