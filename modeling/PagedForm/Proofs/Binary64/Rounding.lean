import Mathlib.Algebra.Order.Field.Power
import Mathlib.Algebra.Order.Ring.Rat
import Mathlib.Tactic.FieldSimp
import Mathlib.Tactic.Linarith
import Mathlib.Tactic.NormNum
import Mathlib.Tactic.Positivity
import Mathlib.Tactic.Ring
import PagedForm.Binary64.Decimal

/-!
# Rounding to binary64 numbers

Every quotient in the rounding interval of a finite number is rounded to that number, and what a
quotient is rounded to is a canonical number: its significand has 53 bits unless its exponent is
the smallest. `ofRatio_of_rounds` and `isCanonical_ofRatio` are the two halves. The quotients are
compared in units of the last place, so an interval does not depend on how a quotient is written.
-/

namespace PagedForm

/-! ## Powers -/

/-- A power of two as a quotient. -/
@[simp, push_cast] theorem cast_twoTo (n : Nat) : ((twoTo n : Nat) : ℚ) = 2 ^ n := by
  simp [twoTo]

/-- A power of ten as a quotient. -/
@[simp, push_cast] theorem cast_tenTo (n : Nat) : ((tenTo n : Nat) : ℚ) = 10 ^ n := by
  simp [tenTo]

/-- A power is its positive part by its negative part. -/
theorem zpow_eq_div {base : ℚ} (h : base ≠ 0) (exponent : Int) :
    base ^ exponent = base ^ exponent.toNat / base ^ (-exponent).toNat := by
  rw [eq_div_iff (pow_ne_zero _ h), ← zpow_natCast base (-exponent).toNat,
    ← zpow_natCast base exponent.toNat, ← zpow_add₀ h]
  congr 1
  omega

/-! ## Rounding to a natural number -/

/-- A quotient lies less than a gap below a number and less than a half above it. When the number
is even the ends count, too. -/
structure IsWithin (gap : ℚ) (n : Nat) (x : ℚ) : Prop where
  above : (n : ℚ) - gap < x ∨ n % 2 = 0 ∧ (n : ℚ) - gap = x
  below : x < (n : ℚ) + 1 / 2 ∨ n % 2 = 0 ∧ x = (n : ℚ) + 1 / 2

/-- The number is the nearest one to a quotient, or the even one of the two nearest. -/
abbrev IsNearest : Nat → ℚ → Prop :=
  IsWithin (1 / 2)

/-- A rounded quotient is the floor of the quotient or more. -/
theorem le_roundDiv (num den : Nat) : num / den ≤ roundDiv num den := by
  unfold roundDiv
  dsimp only
  split
  · exact le_refl _
  · split
    · omega
    · split <;> omega

/-- Being nearest to a quotient, in natural numbers. -/
theorem isNearest_div_iff {n num den : Nat} (hden : 0 < den) :
    IsNearest n (num / den) ↔
      (2 * (n * den) < 2 * num + den ∨ n % 2 = 0 ∧ 2 * (n * den) = 2 * num + den) ∧
        (2 * num < 2 * (n * den) + den ∨ n % 2 = 0 ∧ 2 * num = 2 * (n * den) + den) := by
  have hpos : (0 : ℚ) < den := Nat.cast_pos.2 hden
  have habove : (n : ℚ) - 1 / 2 < num / den ↔ 2 * (n * den) < 2 * num + den := by
    rw [lt_div_iff₀ hpos, ← Nat.cast_lt (α := ℚ)]
    push_cast
    constructor <;> intro h <;> linarith
  have hlow : (n : ℚ) - 1 / 2 = num / den ↔ 2 * (n * den) = 2 * num + den := by
    rw [eq_div_iff hpos.ne', ← Nat.cast_inj (R := ℚ)]
    push_cast
    constructor <;> intro h <;> linarith
  have hbelow : (num : ℚ) / den < n + 1 / 2 ↔ 2 * num < 2 * (n * den) + den := by
    rw [div_lt_iff₀ hpos, ← Nat.cast_lt (α := ℚ)]
    push_cast
    constructor <;> intro h <;> linarith
  have hhigh : (num : ℚ) / den = n + 1 / 2 ↔ 2 * num = 2 * (n * den) + den := by
    rw [div_eq_iff hpos.ne', ← Nat.cast_inj (R := ℚ)]
    push_cast
    constructor <;> intro h <;> linarith
  rw [← habove, ← hlow, ← hbelow, ← hhigh]
  exact ⟨fun h => ⟨h.above, h.below⟩, fun h => ⟨h.1, h.2⟩⟩

/-- Rounding a quotient gives the number that it is nearest to. -/
theorem roundDiv_of_isNearest {n num den : Nat} (hden : 0 < den) (h : IsNearest n (num / den)) :
    roundDiv num den = n := by
  obtain ⟨habove, hbelow⟩ := (isNearest_div_iff hden).1 h
  have hdivision := Nat.div_add_mod num den
  have hrest := Nat.mod_lt num hden
  rw [Nat.mul_comm] at hdivision
  -- The number is the floor of the quotient or the next one.
  have hfloor : num / den ≤ n := by
    by_contra hlt
    have hstep := Nat.mul_le_mul_right den (Nat.not_le.1 hlt)
    rw [Nat.succ_mul] at hstep
    omega
  have hceiling : n ≤ num / den + 1 := by
    by_contra hlt
    have hstep := Nat.mul_le_mul_right den (Nat.not_le.1 hlt)
    rw [Nat.succ_mul, Nat.add_one_mul] at hstep
    omega
  unfold roundDiv
  dsimp only
  obtain rfl | rfl : n = num / den ∨ n = num / den + 1 := by omega
  · split <;> [rfl; split] <;> [omega; split] <;> omega
  · rw [Nat.add_mul, Nat.one_mul] at habove hbelow
    split <;> [omega; split] <;> [rfl; split] <;> omega

/-- A power of two is below a power of ten, since thirteen steps of the one are below four steps of
the other. -/
theorem two_zpow_le (steps : Nat) {binary decimal : Int} (hbinary : binary ≤ 13 * steps)
    (hdecimal : 4 * steps ≤ decimal) : (2 : ℚ) ^ binary ≤ 10 ^ decimal := by
  calc (2 : ℚ) ^ binary ≤ 2 ^ (13 * steps : Int) := zpow_le_zpow_right₀ one_le_two hbinary
    _ = 8192 ^ steps := by
        rw [zpow_mul, zpow_natCast]
        norm_num
    _ ≤ 10000 ^ steps := by
        gcongr
        norm_num
    _ = 10 ^ (4 * steps : Int) := by
        rw [zpow_mul, zpow_natCast]
        norm_num
    _ ≤ 10 ^ decimal := zpow_le_zpow_right₀ (by norm_num) hdecimal

namespace Binary64

variable {num den significand : Nat} {exponent : Int}

/-! ## Exponents -/

/-- A quotient divided by a power of two. -/
theorem dividePower_spec (hden : 0 < den) :
    0 < (dividePower num den exponent).2 ∧
      ((dividePower num den exponent).1 : ℚ) / (dividePower num den exponent).2 =
        num / den / 2 ^ exponent := by
  have hpos : (0 : ℚ) < den := Nat.cast_pos.2 hden
  have hpower (n : Nat) : 0 < twoTo n := Nat.pow_pos Nat.two_pos
  unfold dividePower
  split
  · next hneg =>
      refine ⟨hden, ?_⟩
      have hexponent : exponent.toNat = 0 := by omega
      push_cast
      rw [zpow_eq_div two_ne_zero exponent, hexponent]
      field_simp
  · next hnonneg =>
      refine ⟨Nat.mul_pos hden (hpower _), ?_⟩
      have hexponent : (-exponent).toNat = 0 := by omega
      push_cast
      rw [zpow_eq_div two_ne_zero exponent, hexponent]
      field_simp

/-- The exponent is the one at which a quotient has a significand of 53 bits, or the smallest one
when the quotient is too small for that. -/
structure Fits (exponent : Int) (x : ℚ) : Prop where
  least : minExponent ≤ exponent
  below : x / 2 ^ exponent < 2 ^ 53
  above : minExponent < exponent → 2 ^ 52 ≤ x / 2 ^ exponent

/-- A quotient divided by a larger power of two. -/
theorem div_zpow_add (x : ℚ) (exponent : Int) (steps : Nat) :
    x / 2 ^ exponent = x / 2 ^ (exponent + steps) * 2 ^ steps := by
  rw [zpow_add₀ two_ne_zero, zpow_natCast]
  field_simp

/-- A quotient that fits an exponent fits no larger one. -/
theorem Fits.le_of {x : ℚ} {other : Int} (h : Fits exponent x) (hother : Fits other x) :
    other ≤ exponent := by
  by_contra hle
  have hlt : exponent < other := not_le.1 hle
  obtain ⟨steps, rfl⟩ : ∃ steps : Nat, other = exponent + (steps + 1 : Nat) :=
    ⟨(other - exponent - 1).toNat, by omega⟩
  have habove := hother.above (lt_of_le_of_lt h.least hlt)
  have hbelow := h.below
  rw [div_zpow_add x exponent (steps + 1), pow_succ] at hbelow
  have hsteps : (1 : ℚ) ≤ 2 ^ steps := one_le_pow₀ one_le_two
  nlinarith

/-- A quotient fits one exponent. -/
theorem Fits.unique {x : ℚ} {other : Int} (h : Fits exponent x) (hother : Fits other x) :
    exponent = other :=
  le_antisymm (hother.le_of h) (h.le_of hother)

/-- A number lies between the powers of two of its logarithm and of the next. -/
theorem log2_bounds {n : Nat} (h : 0 < n) :
    (2 : ℚ) ^ n.log2 ≤ n ∧ (n : ℚ) < 2 * 2 ^ n.log2 := by
  have hlow := Nat.log2_self_le h.ne'
  have hhigh := @Nat.lt_log2_self n
  rw [pow_succ] at hhigh
  constructor
  · exact_mod_cast hlow
  · rw [mul_comm]
    exact_mod_cast hhigh

/-- The first guess of the exponent is off by one at most. -/
theorem guess_bounds (hnum : 0 < num) (hden : 0 < den) :
    2 ^ 51 < (num / den / 2 ^ ((num.log2 : Int) - den.log2 - 52) : ℚ) ∧
      (num / den / 2 ^ ((num.log2 : Int) - den.log2 - 52) : ℚ) < 2 ^ 53 := by
  obtain ⟨hnumLow, hnumHigh⟩ := log2_bounds hnum
  obtain ⟨hdenLow, hdenHigh⟩ := log2_bounds hden
  have hden : (0 : ℚ) < den := Nat.cast_pos.2 hden
  have hscaled : (num / den / 2 ^ ((num.log2 : Int) - den.log2 - 52) : ℚ) =
      num * (2 ^ den.log2 * 2 ^ 52) / (den * 2 ^ num.log2) := by
    rw [zpow_sub₀ two_ne_zero, zpow_sub₀ two_ne_zero, zpow_natCast, zpow_natCast]
    field_simp
  have hpower : (0 : ℚ) < 2 ^ num.log2 := by positivity
  have hpowerDen : (0 : ℚ) < 2 ^ den.log2 := by positivity
  rw [hscaled, lt_div_iff₀ (by positivity), div_lt_iff₀ (by positivity)]
  constructor
  · calc (2 ^ 51 * (den * 2 ^ num.log2) : ℚ)
        < 2 ^ 51 * (2 * 2 ^ den.log2 * 2 ^ num.log2) := by gcongr
      _ ≤ 2 ^ 51 * (2 * 2 ^ den.log2 * num) := by gcongr
      _ = num * (2 ^ den.log2 * 2 ^ 52) := by ring
  · calc (num * (2 ^ den.log2 * 2 ^ 52) : ℚ)
        < 2 * 2 ^ num.log2 * (2 ^ den.log2 * 2 ^ 52) := by gcongr
      _ ≤ 2 * 2 ^ num.log2 * (den * 2 ^ 52) := by gcongr
      _ = 2 ^ 53 * (den * 2 ^ num.log2) := by ring

/-- An exponent at which a quotient has 53 bits, raised to the smallest one, fits. -/
theorem fits_max {x : ℚ} (hbelow : x / 2 ^ exponent < 2 ^ 53) (habove : 2 ^ 52 ≤ x / 2 ^ exponent) :
    Fits (max minExponent exponent) x := by
  rcases le_total minExponent exponent with hle | hle
  · rw [max_eq_right hle]
    exact ⟨hle, hbelow, fun _ => habove⟩
  · rw [max_eq_left hle]
    refine ⟨le_refl _, ?_, fun hlt => absurd hlt (lt_irrefl _)⟩
    obtain ⟨steps, hsteps⟩ : ∃ steps : Nat, minExponent = exponent + steps :=
      ⟨(minExponent - exponent).toNat, by omega⟩
    have hpower : (1 : ℚ) ≤ 2 ^ steps := one_le_pow₀ one_le_two
    rw [div_zpow_add x exponent steps, ← hsteps] at hbelow habove
    have hpos : 0 < x / 2 ^ minExponent := by
      by_contra hle
      nlinarith
    nlinarith

/-- The chosen exponent fits. -/
theorem fits_exponentOf (hnum : 0 < num) (hden : 0 < den) :
    Fits (exponentOf num den) (num / den) := by
  obtain ⟨hlow, hhigh⟩ := guess_bounds hnum hden
  unfold exponentOf
  dsimp only
  generalize hguess : (num.log2 : Int) - den.log2 - 52 = guess at hlow hhigh ⊢
  obtain ⟨hpos, hscaled⟩ := @dividePower_spec num den guess hden
  have htest : (dividePower num den guess).1 < twoTo 52 * (dividePower num den guess).2 ↔
      (num / den / 2 ^ guess : ℚ) < 2 ^ 52 := by
    rw [← hscaled, div_lt_iff₀ (Nat.cast_pos.2 hpos), ← Nat.cast_lt (α := ℚ)]
    push_cast
    rfl
  split
  · next hless =>
      have hhalf := div_zpow_add (num / den : ℚ) (guess - 1) 1
      rw [show guess - 1 + (1 : Nat) = guess by omega] at hhalf
      have hbelow := htest.1 hless
      refine fits_max ?_ ?_ <;> rw [hhalf] <;> linarith
  · next hless => exact fits_max hhigh (not_lt.1 fun h => hless (htest.2 h))

/-! ## Rounding a quotient -/

/-- A significand and an exponent are those of a number as it is kept: the significand has 53 bits,
unless the exponent is the smallest one. -/
structure IsCanonical (significand : Nat) (exponent : Int) : Prop where
  short : significand < 2 ^ 53
  least : minExponent ≤ exponent
  most : exponent ≤ maxExponent
  full : minExponent < exponent → 2 ^ 52 ≤ significand

/-- How far below a number its rounding interval begins, in units of the last place. Below a power
of two the neighbour is only half as far away. -/
def lowerGap (significand : Nat) (exponent : Int) : ℚ :=
  if significand = 2 ^ 52 ∧ minExponent < exponent then 1 / 4 else 1 / 2

/-- A quotient lies in the rounding interval of a number. -/
def Rounds (significand : Nat) (exponent : Int) (x : ℚ) : Prop :=
  IsWithin (lowerGap significand exponent) significand (x / 2 ^ exponent)

/-- A quotient is rounded to the number that is nearest to it where it fits; when all bits carry
over, that is the next power of two. -/
theorem ofRatio_of_isNearest {negative : Bool} (hnum : 0 < num) (hden : 0 < den)
    (hfits : Fits exponent (num / den))
    (hnearest : IsNearest significand (num / den / 2 ^ exponent)) :
    ofRatio negative num den =
      if significand = 2 ^ 53 then
        if maxExponent < exponent + 1 then .infinite negative
        else .finite negative (2 ^ 52) (exponent + 1)
      else if maxExponent < exponent then .infinite negative
      else .finite negative significand exponent := by
  obtain ⟨hpos, hscaled⟩ := @dividePower_spec num den exponent hden
  have hexponent : exponentOf num den = exponent := (fits_exponentOf hnum hden).unique hfits
  rw [← hscaled] at hnearest
  unfold ofRatio
  rw [if_neg hnum.ne', hexponent]
  dsimp only
  rw [roundDiv_of_isNearest hpos hnearest]
  have hpower (n : Nat) : twoTo n = 2 ^ n := rfl
  simp only [hpower]
  by_cases hcarry : significand = 2 ^ 53
  · simp only [if_pos hcarry]
  · simp only [if_neg hcarry]

/-- A quotient in the rounding interval of a number lies at most a half away from it. -/
theorem Rounds.bounds {x : ℚ} (h : Rounds significand exponent x) :
    (significand : ℚ) - 1 / 2 ≤ x / 2 ^ exponent ∧ x / 2 ^ exponent ≤ significand + 1 / 2 := by
  have hgap : lowerGap significand exponent ≤ 1 / 2 := by
    unfold lowerGap
    split <;> norm_num
  constructor
  · rcases h.above with habove | ⟨_, habove⟩ <;> linarith
  · rcases h.below with hbelow | ⟨_, hbelow⟩ <;> linarith

/-- Below a power of two the quotients of the rounding interval have one bit more. They fit the
exponent before, and all bits carry over. -/
theorem fits_pred {x : ℚ} (hexponent : minExponent < exponent)
    (h : Rounds (2 ^ 52) exponent x) (hless : x / 2 ^ exponent < 2 ^ 52) :
    Fits (exponent - 1) x ∧ IsNearest (2 ^ 53) (x / 2 ^ (exponent - 1)) := by
  have hdouble : x / 2 ^ (exponent - 1) = x / 2 ^ exponent * 2 := by
    have hstep := div_zpow_add x (exponent - 1) 1
    rwa [show exponent - 1 + (1 : Nat) = exponent by omega, pow_one] at hstep
  have hgap : lowerGap (2 ^ 52) exponent = 1 / 4 := if_pos ⟨rfl, hexponent⟩
  have hlow : (2 ^ 52 : ℚ) - 1 / 4 ≤ x / 2 ^ exponent := by
    have habove := h.above
    rw [hgap] at habove
    push_cast at habove
    rcases habove with habove | ⟨_, habove⟩
    · exact habove.le
    · exact habove.le
  refine ⟨⟨by omega, ?_, fun _ => ?_⟩, ⟨?_, .inl ?_⟩⟩
  · rw [hdouble]
    linarith
  · rw [hdouble]
    linarith
  · rw [hdouble]
    push_cast
    rcases hlow.lt_or_eq with hlt | heq
    · exact .inl (by linarith)
    · exact .inr ⟨by decide, by linarith⟩
  · rw [hdouble]
    push_cast
    linarith

/-- The other quotients of the rounding interval fit the exponent of the number, which is the
nearest one to them. -/
theorem fits_of_rounds {x : ℚ} (hcanonical : IsCanonical significand exponent)
    (h : Rounds significand exponent x)
    (hfull : significand = 2 ^ 52 → minExponent < exponent → 2 ^ 52 ≤ x / 2 ^ exponent) :
    Fits exponent x ∧ IsNearest significand (x / 2 ^ exponent) := by
  obtain ⟨hlow, hhigh⟩ := h.bounds
  have hshort : (significand : ℚ) + 1 ≤ 2 ^ 53 := by exact_mod_cast hcanonical.short
  refine ⟨⟨hcanonical.least, by linarith, fun hexponent => ?_⟩, ⟨?_, h.below⟩⟩
  · rcases (hcanonical.full hexponent).eq_or_lt with heq | hlt
    · exact hfull heq.symm hexponent
    · have hmore : (2 ^ 52 : ℚ) + 1 ≤ significand := by exact_mod_cast hlt
      linarith
  · by_cases hpower : significand = 2 ^ 52 ∧ minExponent < exponent
    · have hle := hfull hpower.1 hpower.2
      rw [hpower.1]
      push_cast
      exact .inl (by linarith)
    · have habove := h.above
      rwa [lowerGap, if_neg hpower] at habove

/-- A quotient in the rounding interval of a number is rounded to that number. -/
theorem ofRatio_of_rounds {negative : Bool} (hnum : 0 < num) (hden : 0 < den)
    (hcanonical : IsCanonical significand exponent)
    (h : Rounds significand exponent (num / den)) :
    ofRatio negative num den = .finite negative significand exponent := by
  have hmost := not_lt.2 hcanonical.most
  by_cases hpower : significand = 2 ^ 52 ∧ minExponent < exponent ∧
      (num / den / 2 ^ exponent : ℚ) < 2 ^ 52
  · obtain ⟨rfl, hexponent, hless⟩ := hpower
    obtain ⟨hfits, hnearest⟩ := fits_pred hexponent h hless
    rw [ofRatio_of_isNearest hnum hden hfits hnearest, if_pos rfl, Int.sub_add_cancel,
      if_neg hmost]
  · obtain ⟨hfits, hnearest⟩ := fits_of_rounds hcanonical h fun heq hexponent =>
      not_lt.1 fun hless => hpower ⟨heq, hexponent, hless⟩
    rw [ofRatio_of_isNearest hnum hden hfits hnearest, if_neg hcanonical.short.ne, if_neg hmost]

/-! ## Rounded numbers -/

/-- A number is one that rounding gives: a special one, or a canonical finite one. -/
def IsRounded : Binary64 → Prop
  | .finite _ significand exponent => IsCanonical significand exponent
  | _ => True

/-- Zero is canonical. -/
theorem isRounded_signedZero (negative : Bool) : (signedZero negative).IsRounded :=
  ⟨by decide, le_refl _, by decide, fun h => absurd h (lt_irrefl _)⟩

/-- What a quotient is rounded to is canonical. -/
theorem isRounded_ofRatio (negative : Bool) (num : Nat) (hden : 0 < den) :
    (ofRatio negative num den).IsRounded := by
  have hpower (n : Nat) : twoTo n = 2 ^ n := rfl
  unfold ofRatio
  split
  · exact isRounded_signedZero negative
  · next hzero =>
      obtain ⟨hleast, hbelow, habove⟩ := fits_exponentOf (Nat.pos_of_ne_zero hzero) hden
      generalize exponentOf num den = exponent at hleast hbelow habove ⊢
      obtain ⟨hpos, hscaled⟩ := @dividePower_spec num den exponent hden
      dsimp only
      generalize dividePower num den exponent = scaled at hpos hscaled ⊢
      have hcast : (0 : ℚ) < scaled.2 := Nat.cast_pos.2 hpos
      rw [← hscaled] at hbelow habove
      have hshort : scaled.1 / scaled.2 < 2 ^ 53 := by
        rw [Nat.div_lt_iff_lt_mul hpos]
        rw [div_lt_iff₀ hcast] at hbelow
        exact_mod_cast hbelow
      have hfull (hexponent : minExponent < exponent) : 2 ^ 52 ≤ scaled.1 / scaled.2 := by
        have hle := habove hexponent
        rw [Nat.le_div_iff_mul_le hpos]
        rw [le_div_iff₀ hcast] at hle
        exact_mod_cast hle
      have hrounded := roundDiv_le scaled.1 scaled.2
      have hfloor := le_roundDiv scaled.1 scaled.2
      simp only [hpower]
      by_cases hcarry : roundDiv scaled.1 scaled.2 = 2 ^ 53
      · simp only [if_pos hcarry]
        split
        · trivial
        · exact ⟨by decide, by omega, by omega, fun _ => le_refl _⟩
      · simp only [if_neg hcarry]
        split
        · trivial
        · exact ⟨by omega, hleast, by omega, fun hexponent => (hfull hexponent).trans hfloor⟩

/-- What a decimal number is rounded to is canonical. -/
theorem isRounded_ofDecimal (negative : Bool) (digits : Nat) (exponent : Int) :
    (ofDecimal negative digits exponent).IsRounded := by
  unfold ofDecimal
  split
  · exact isRounded_signedZero negative
  · dsimp only
    split
    · trivial
    · split
      · exact isRounded_signedZero negative
      · split
        · exact isRounded_ofRatio _ _ (Nat.pow_pos (by decide))
        · exact isRounded_ofRatio _ _ Nat.one_pos

/-! ## Rounding a decimal number -/

/-- A number lies between the powers of ten of its count of digits. -/
theorem decimalLength_bounds {n : Nat} (h : 0 < n) :
    10 ^ decimalLength n ≤ 10 * n ∧ n < 10 ^ decimalLength n := by
  have hlength : 0 < decimalLength n := Nat.length_toDigits_pos
  have hle {k : Nat} (hk : 0 < k) : decimalLength n ≤ k ↔ n < 10 ^ k :=
    Nat.length_toDigits_le_iff (by decide) hk
  refine ⟨?_, (hle hlength).1 (le_refl _)⟩
  obtain ⟨count, hcount⟩ := Nat.exists_eq_add_of_lt hlength
  rw [Nat.zero_add] at hcount
  rw [hcount, pow_succ]
  rcases Nat.eq_zero_or_pos count with rfl | hpos
  · omega
  · have hlong : ¬ decimalLength n ≤ count := by omega
    rw [hle hpos] at hlong
    omega

/-- The quotients in the rounding interval of a number lie between the ends of all numbers. -/
theorem Rounds.range {x : ℚ} (hcanonical : IsCanonical significand exponent)
    (hpos : 0 < significand) (h : Rounds significand exponent x) :
    2 ^ (-1075 : Int) ≤ x ∧ x < 2 ^ (1024 : Int) := by
  obtain ⟨hlow, hhigh⟩ := h.bounds
  have hone : (1 : ℚ) ≤ significand := by exact_mod_cast hpos
  have hshort : (significand : ℚ) + 1 ≤ 2 ^ 53 := by exact_mod_cast hcanonical.short
  have hscaled : x = x / 2 ^ exponent * 2 ^ exponent := by field_simp
  have hleast : (2 : ℚ) ^ (-1074 : Int) ≤ 2 ^ exponent :=
    zpow_le_zpow_right₀ one_le_two hcanonical.least
  have hmost : (2 : ℚ) ^ exponent ≤ 2 ^ (971 : Int) :=
    zpow_le_zpow_right₀ one_le_two hcanonical.most
  have hunit : (0 : ℚ) < 2 ^ exponent := by positivity
  constructor
  · calc (2 : ℚ) ^ (-1075 : Int) = 1 / 2 * 2 ^ (-1074 : Int) := by
          rw [show (-1075 : Int) = -1 + -1074 by decide, zpow_add₀ two_ne_zero]
          norm_num
      _ ≤ x / 2 ^ exponent * 2 ^ exponent := by
          refine mul_le_mul (by linarith) hleast (by positivity) (by linarith)
      _ = x := hscaled.symm
  · calc x = x / 2 ^ exponent * 2 ^ exponent := hscaled
      _ < 2 ^ 53 * 2 ^ exponent := by
          gcongr
          linarith
      _ ≤ 2 ^ 53 * 2 ^ (971 : Int) := by gcongr
      _ = 2 ^ (1024 : Int) := by
          rw [show (1024 : Int) = 53 + 971 by decide, zpow_add₀ two_ne_zero]
          norm_num

/-- A decimal number lies between the powers of ten of its magnitude. -/
theorem magnitude_bounds {digits : Nat} (hdigits : 0 < digits) (power : Int) :
    (10 : ℚ) ^ ((decimalLength digits : Int) + power) ≤ 10 * (digits * 10 ^ power) ∧
      (digits * 10 ^ power : ℚ) < 10 ^ ((decimalLength digits : Int) + power) := by
  obtain ⟨hlow, hhigh⟩ := decimalLength_bounds hdigits
  have hlow : (10 : ℚ) ^ decimalLength digits ≤ 10 * digits := by exact_mod_cast hlow
  have hhigh : (digits : ℚ) < 10 ^ decimalLength digits := by exact_mod_cast hhigh
  rw [zpow_add₀ (by norm_num), zpow_natCast, ← mul_assoc]
  exact ⟨by gcongr, by gcongr⟩

/-- A decimal number in the rounding interval of a number is rounded to that number. -/
theorem ofDecimal_of_rounds {negative : Bool} {digits : Nat} {power : Int} (hdigits : 0 < digits)
    (hcanonical : IsCanonical significand exponent) (hpos : 0 < significand)
    (h : Rounds significand exponent (digits * 10 ^ power)) :
    ofDecimal negative digits power = .finite negative significand exponent := by
  obtain ⟨hleast, hmost⟩ := h.range hcanonical hpos
  obtain ⟨hlow, hhigh⟩ := magnitude_bounds hdigits power
  have hnotLarge : ¬ 400 < (decimalLength digits : Int) + power := by
    intro hlarge
    have hpower : (10 : ℚ) ^ (401 : Int) ≤ 10 ^ ((decimalLength digits : Int) + power) :=
      zpow_le_zpow_right₀ (by norm_num) hlarge
    have hends : (10 : ℚ) * (digits * 10 ^ power) < 10 ^ (401 : Int) := by
      calc (10 : ℚ) * (digits * 10 ^ power) < 10 * 2 ^ (1024 : Int) := by gcongr
        _ ≤ 10 * 10 ^ (342 : Int) := by
            gcongr
            exact two_zpow_le 79 (by decide) (by decide)
        _ = 10 ^ (343 : Int) := by rw [← zpow_one_add₀ (by norm_num)]; rfl
        _ ≤ 10 ^ (401 : Int) := zpow_le_zpow_right₀ (by norm_num) (by decide)
    exact absurd (hpower.trans hlow) (not_le.2 hends)
  have hnotSmall : ¬ (decimalLength digits : Int) + power < -400 := by
    intro hsmall
    have hpower : (10 : ℚ) ^ ((decimalLength digits : Int) + power) ≤ 10 ^ (-400 : Int) :=
      zpow_le_zpow_right₀ (by norm_num) hsmall.le
    have hends : (10 : ℚ) ^ (-400 : Int) ≤ 2 ^ (-1075 : Int) := by
      rw [zpow_neg, zpow_neg]
      exact inv_anti₀ (by positivity) (two_zpow_le 83 (by decide) (by decide))
    exact absurd (hleast.trans_lt hhigh) (not_lt.2 (hpower.trans hends))
  unfold ofDecimal
  rw [if_neg hdigits.ne']
  dsimp only
  rw [if_neg hnotLarge, if_neg hnotSmall]
  have hten (n : Nat) : 0 < tenTo n := Nat.pow_pos (by decide)
  split
  · next hneg =>
      refine ofRatio_of_rounds hdigits (hten _) hcanonical ?_
      have hexponent : power.toNat = 0 := by omega
      rwa [zpow_eq_div (by norm_num) power, hexponent, pow_zero, mul_one_div, ← cast_tenTo] at h
  · next hnonneg =>
      refine ofRatio_of_rounds (Nat.mul_pos hdigits (hten _)) Nat.one_pos hcanonical ?_
      have hexponent : (-power).toNat = 0 := by omega
      rw [zpow_eq_div (by norm_num) power, hexponent, pow_zero, div_one, ← cast_tenTo] at h
      rwa [Nat.cast_one, div_one, Nat.cast_mul]

end Binary64

end PagedForm
