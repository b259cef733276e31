import PagedForm.Proofs.Binary64.Rounding

/-!
# Decimal digits that read back

`shortest` tries grids of decimal numbers, from coarse to fine, for a point in the rounding interval
of a number. What it finds lies in the interval, and with seventeen digits there always is a point:
the grid is then finer than the interval is wide. So `shortest_rounds` holds of every number, and
the digits are rounded to the number that they were made for.
-/

namespace PagedForm.Binary64

variable {significand : Nat} {exponent : Int}

/-! ## The decimal grid -/

/-- The factors of a grid are its step in quarters of a unit of the last place. -/
theorem gridFactors_spec (exponent grid : Int) :
    0 < (gridFactors exponent grid).1 ∧ 0 < (gridFactors exponent grid).2 ∧
      ((gridFactors exponent grid).2 / (gridFactors exponent grid).1 : ℚ) =
        4 * (10 ^ grid / 2 ^ exponent) := by
  have htwo (n : Nat) : 0 < twoTo n := Nat.pow_pos (by decide)
  have hten (n : Nat) : 0 < tenTo n := Nat.pow_pos (by decide)
  refine ⟨Nat.mul_pos (htwo _) (hten _), Nat.mul_pos (htwo _) (hten _), ?_⟩
  have hquarter : (2 : ℚ) ^ exponent = 4 * 2 ^ (exponent - 2) := by
    rw [zpow_sub₀ two_ne_zero]
    field_simp
    norm_num
  have hsign : 2 - exponent = -(exponent - 2) := by omega
  rw [hquarter, zpow_eq_div two_ne_zero (exponent - 2), zpow_eq_div (by norm_num) grid]
  simp only [gridFactors, hsign]
  push_cast
  field_simp

/-- The lower end of the rounding interval, in quarters of a unit of the last place. -/
theorem cast_low (hpos : 0 < significand) :
    ((intervalOf significand exponent).low : ℚ) =
      4 * (significand - lowerGap significand exponent) := by
  have hpower : twoTo 52 = 2 ^ 52 := rfl
  unfold intervalOf lowerGap
  simp only [hpower]
  split
  · rw [Nat.cast_sub (by omega)]
    push_cast
    ring
  · rw [Nat.cast_sub (by omega)]
    push_cast
    ring

/-- A grid point is tested for lying in the rounding interval of a number. -/
theorem holds_intervalOf_iff (hpos : 0 < significand) {grid : Int} {candidate : Nat} :
    (intervalOf significand exponent).holds (gridFactors exponent grid) candidate = true ↔
      Rounds significand exponent (candidate * 10 ^ grid) := by
  obtain ⟨hfirst, _, hratio⟩ := gridFactors_spec exponent grid
  generalize gridFactors exponent grid = factors at hfirst hratio ⊢
  have hunit : (0 : ℚ) < 4 * factors.1 := by positivity
  generalize hscaled : (candidate * 10 ^ grid / 2 ^ exponent : ℚ) = x
  have hplace : ((candidate * factors.2 : Nat) : ℚ) = x * (4 * factors.1) := by
    rw [div_eq_iff (by positivity)] at hratio
    push_cast
    rw [hratio, ← hscaled]
    ring
  -- Both ends are compared in quarters of a unit of the last place.
  have hlow : (((intervalOf significand exponent).low * factors.1 : Nat) : ℚ) =
      (significand - lowerGap significand exponent) * (4 * factors.1) := by
    push_cast
    rw [cast_low hpos]
    ring
  have hhigh : (((intervalOf significand exponent).high * factors.1 : Nat) : ℚ) =
      (significand + 1 / 2) * (4 * factors.1) := by
    simp only [intervalOf]
    push_cast
    ring
  have habove : (intervalOf significand exponent).low * factors.1 < candidate * factors.2 ↔
      significand - lowerGap significand exponent < x := by
    rw [← Nat.cast_lt (α := ℚ), hplace, hlow, mul_lt_mul_iff_left₀ hunit]
  have hlowest : (intervalOf significand exponent).low * factors.1 = candidate * factors.2 ↔
      significand - lowerGap significand exponent = x := by
    rw [← Nat.cast_inj (R := ℚ), hplace, hlow, mul_left_inj' hunit.ne']
  have hbelow : candidate * factors.2 < (intervalOf significand exponent).high * factors.1 ↔
      x < significand + 1 / 2 := by
    rw [← Nat.cast_lt (α := ℚ), hplace, hhigh, mul_lt_mul_iff_left₀ hunit]
  have hhighest : candidate * factors.2 = (intervalOf significand exponent).high * factors.1 ↔
      x = significand + 1 / 2 := by
    rw [← Nat.cast_inj (R := ℚ), hplace, hhigh, mul_left_inj' hunit.ne']
  have hclosed : (intervalOf significand exponent).closed = true ↔ significand % 2 = 0 :=
    beq_iff_eq
  unfold Interval.holds Rounds
  simp only [Bool.and_eq_true, Bool.or_eq_true, decide_eq_true_eq, beq_iff_eq, hclosed, habove,
    hlowest, hbelow, hhighest, hscaled]
  exact ⟨fun h => ⟨h.1, h.2⟩, fun h => ⟨h.above, h.below⟩⟩

/-- The nearest grid point in an interval is in the interval. -/
theorem holds_of_nearest? {interval : Interval} {factors : Nat × Nat} {candidate : Nat}
    (h : interval.nearest? factors = some candidate) :
    interval.holds factors candidate = true := by
  unfold Interval.nearest? at h
  dsimp only at h
  split at h
  · next hbelow habove =>
      split at h
      · cases h
        exact hbelow
      · split at h
        · cases h
          exact habove
        · split at h
          · cases h
            exact hbelow
          · cases h
            exact habove
  · next hbelow _ =>
      cases h
      exact hbelow
  · next _ habove =>
      cases h
      exact habove
  · cases h

/-- There is no nearest grid point when the two neighbours of the number are outside. -/
theorem nearest?_eq_none {interval : Interval} {factors : Nat × Nat}
    (h : interval.nearest? factors = none) :
    interval.holds factors (interval.middle * factors.1 / factors.2) = false ∧
      interval.holds factors (interval.middle * factors.1 / factors.2 + 1) = false := by
  unfold Interval.nearest? at h
  dsimp only at h
  split at h
  · split at h
    · cases h
    · split at h
      · cases h
      · split at h <;> cases h
  · cases h
  · cases h
  · next hbelow habove => exact ⟨hbelow, habove⟩

/-! ## Seventeen digits -/

/-- The floor of a number on a grid. -/
theorem floor_bounds (significand : Nat) (exponent grid : Int) :
    let floor := 4 * significand * (gridFactors exponent grid).1 / (gridFactors exponent grid).2
    (floor * 10 ^ grid : ℚ) ≤ significand * 2 ^ exponent ∧
      (significand * 2 ^ exponent : ℚ) < (floor + 1) * 10 ^ grid := by
  obtain ⟨hfirst, hsecond, hratio⟩ := gridFactors_spec exponent grid
  generalize gridFactors exponent grid = factors at hfirst hsecond hratio ⊢
  have hpos : (0 : ℚ) < factors.1 := Nat.cast_pos.2 hfirst
  have hpositive : (0 : ℚ) < factors.2 := Nat.cast_pos.2 hsecond
  have hvalue : (significand * 2 ^ exponent : ℚ) =
      ((4 * significand * factors.1 : Nat) : ℚ) / factors.2 * 10 ^ grid := by
    rw [div_eq_iff hpos.ne'] at hratio
    push_cast
    rw [hratio]
    field_simp
  dsimp only
  rw [hvalue]
  generalize 4 * significand * factors.1 = num
  have hlow : ((num / factors.2 : Nat) : ℚ) ≤ num / factors.2 := by
    rw [le_div_iff₀ hpositive]
    exact_mod_cast Nat.div_mul_le_self num factors.2
  have hhigh : (num / factors.2 : ℚ) < (num / factors.2 : Nat) + 1 := by
    rw [div_lt_iff₀' hpositive]
    exact_mod_cast Nat.lt_mul_div_succ num hsecond
  constructor <;> gcongr

/-- The decimal point of a number stands at the least power of ten above it. -/
theorem pointOf_bounds (hpos : 0 < significand) (hexponent : minExponent ≤ exponent) :
    (10 : ℚ) ^ pointOf significand exponent ≤ 10 * (significand * 2 ^ exponent) ∧
      (significand * 2 ^ exponent : ℚ) < 10 ^ pointOf significand exponent := by
  obtain ⟨hlow, hhigh⟩ := floor_bounds significand exponent (-340)
  unfold pointOf
  dsimp only at hlow hhigh ⊢
  generalize 4 * significand * (gridFactors exponent (-340)).1 /
    (gridFactors exponent (-340)).2 = floor at hlow hhigh ⊢
  have hfloor : 0 < floor := by
    by_contra hzero
    obtain rfl : floor = 0 := by omega
    have hone : (1 : ℚ) ≤ significand := by exact_mod_cast hpos
    have hends : (10 : ℚ) ^ (-340 : Int) ≤ 2 ^ (-1074 : Int) := by
      rw [zpow_neg, zpow_neg]
      exact inv_anti₀ (by positivity) (two_zpow_le 83 (by decide) (by decide))
    have hleast : (2 : ℚ) ^ (-1074 : Int) ≤ 2 ^ exponent :=
      zpow_le_zpow_right₀ one_le_two hexponent
    have hunit : (0 : ℚ) < 2 ^ exponent := by positivity
    rw [Nat.cast_zero, zero_add, one_mul] at hhigh
    nlinarith
  obtain ⟨hlength, hshort⟩ := decimalLength_bounds hfloor
  have hlength : (10 : ℚ) ^ decimalLength floor ≤ 10 * floor := by exact_mod_cast hlength
  have hshort : ((floor : ℚ) + 1) ≤ 10 ^ decimalLength floor := by exact_mod_cast hshort
  have hgrid : (0 : ℚ) < 10 ^ (-340 : Int) := by positivity
  rw [sub_eq_add_neg, zpow_add₀ (by norm_num), zpow_natCast]
  constructor
  · calc (10 : ℚ) ^ decimalLength floor * 10 ^ (-340 : Int)
        ≤ 10 * floor * 10 ^ (-340 : Int) := by gcongr
      _ = 10 * (floor * 10 ^ (-340 : Int)) := by ring
      _ ≤ 10 * (significand * 2 ^ exponent) := by gcongr
  · calc (significand * 2 ^ exponent : ℚ) < (floor + 1) * 10 ^ (-340 : Int) := hhigh
      _ ≤ 10 ^ decimalLength floor * 10 ^ (-340 : Int) := by gcongr

/-- With seventeen digits the grid is finer than the rounding interval is wide. -/
theorem seventeen_fine (hcanonical : IsCanonical significand exponent)
    (hpos : 0 < significand) :
    (10 : ℚ) ^ (pointOf significand exponent - 17) <
      (lowerGap significand exponent + 1 / 2) * 2 ^ exponent := by
  obtain ⟨hpoint, _⟩ := pointOf_bounds hpos hcanonical.least
  have hshort : (significand : ℚ) < 2 ^ 53 := by exact_mod_cast hcanonical.short
  have hunit : (0 : ℚ) < 2 ^ exponent := by positivity
  have hsteps : (significand : ℚ) < (lowerGap significand exponent + 1 / 2) * 10 ^ 16 := by
    unfold lowerGap
    split
    · next hpower =>
        rw [hpower.1]
        norm_num
    · linarith
  have hdivided : (10 : ℚ) ^ (pointOf significand exponent - 17) =
      10 ^ pointOf significand exponent / 10 ^ 17 := by
    rw [zpow_sub₀ (by norm_num)]
    norm_num
  rw [hdivided, div_lt_iff₀ (by positivity)]
  calc (10 : ℚ) ^ pointOf significand exponent ≤ 10 * (significand * 2 ^ exponent) := hpoint
    _ < 10 * ((lowerGap significand exponent + 1 / 2) * 10 ^ 16 * 2 ^ exponent) := by gcongr
    _ = (lowerGap significand exponent + 1 / 2) * 2 ^ exponent * 10 ^ 17 := by ring

/-- With seventeen digits there is a grid point in the rounding interval. -/
theorem isSome_nearest? (hcanonical : IsCanonical significand exponent) (hpos : 0 < significand) :
    ((intervalOf significand exponent).nearest?
      (gridFactors exponent (pointOf significand exponent - 17))).isSome = true := by
  generalize hgrid : pointOf significand exponent - 17 = grid
  by_contra hnone
  rw [Bool.not_eq_true, Option.isSome_eq_false_iff, Option.isNone_iff_eq_none] at hnone
  obtain ⟨hbelow, habove⟩ := nearest?_eq_none hnone
  obtain ⟨hlow, hhigh⟩ := floor_bounds significand exponent grid
  have hfine := seventeen_fine hcanonical hpos
  rw [hgrid] at hfine
  rw [← Bool.not_eq_true, holds_intervalOf_iff hpos] at hbelow habove
  dsimp only [intervalOf] at hlow hhigh hbelow habove
  generalize 4 * significand * (gridFactors exponent grid).1 /
    (gridFactors exponent grid).2 = floor at hlow hhigh hbelow habove
  have hunit : (0 : ℚ) < 2 ^ exponent := by positivity
  have hgap : 0 < lowerGap significand exponent := by
    unfold lowerGap
    split <;> norm_num
  -- Both neighbours are on the right side of the number, so they have to lie beyond the ends.
  have hleft : (floor * 10 ^ grid / 2 ^ exponent : ℚ) ≤
      significand - lowerGap significand exponent := by
    by_contra hinside
    have hhalf : (floor * 10 ^ grid / 2 ^ exponent : ℚ) < significand + 1 / 2 := by
      rw [div_lt_iff₀ hunit]
      linarith
    exact hbelow ⟨.inl (not_le.1 hinside), .inl hhalf⟩
  have hright : (significand + 1 / 2 : ℚ) ≤ (floor + 1) * 10 ^ grid / 2 ^ exponent := by
    by_contra hinside
    have hgapBelow : (significand - lowerGap significand exponent : ℚ) <
        (floor + 1) * 10 ^ grid / 2 ^ exponent := by
      rw [lt_div_iff₀ hunit]
      nlinarith
    rw [← Nat.cast_add_one] at hinside hgapBelow
    exact habove ⟨.inl hgapBelow, .inl (not_le.1 hinside)⟩
  rw [div_le_iff₀ hunit] at hleft
  rw [le_div_iff₀ hunit] at hright
  linarith

/-! ## Digits without zeros at the end -/

/-- Ten times a number has one digit more. -/
theorem decimalLength_ten_mul {n : Nat} (h : 0 < n) :
    decimalLength (n * 10) = decimalLength n + 1 := by
  unfold decimalLength
  rw [Nat.toDigits_of_base_le (by decide) (by omega), Nat.mul_div_cancel n (by decide),
    List.length_append, List.length_singleton]

/-- The digits that are left when zeros at the end are dropped, and the count of those. -/
theorem stripZeros_spec (fuel : Nat) {n : Nat} (h : 0 < n) :
    0 < stripZeros fuel n ∧ ∃ zeros, n = stripZeros fuel n * 10 ^ zeros ∧
      decimalLength n = decimalLength (stripZeros fuel n) + zeros := by
  induction fuel generalizing n with
  | zero => exact ⟨h, 0, by simp [stripZeros], rfl⟩
  | succ fuel ih =>
      rw [stripZeros]
      split
      · next hzero =>
          have htenth : n / 10 * 10 = n := Nat.div_mul_cancel (Nat.dvd_of_mod_eq_zero hzero.2)
          obtain ⟨hpos, zeros, hvalue, hlength⟩ := @ih (n / 10) (by omega)
          refine ⟨hpos, zeros + 1, ?_, ?_⟩
          · rw [pow_succ, ← Nat.mul_assoc, ← hvalue, htenth]
          · rw [← htenth, decimalLength_ten_mul (by omega), hlength, htenth]
            omega
      · exact ⟨h, 0, by simp, rfl⟩

/-- The quotient that a decimal number stands for. -/
def Decimal.value (decimal : Decimal) : ℚ :=
  decimal.digits * 10 ^ (decimal.point - decimalLength decimal.digits)

/-- Steps on a grid are the decimal number that is made of them. -/
theorem ofSteps_value {steps : Nat} (h : 0 < steps) (grid : Int) :
    0 < (Decimal.ofSteps steps grid).digits ∧
      (Decimal.ofSteps steps grid).value = steps * 10 ^ grid := by
  obtain ⟨hpos, zeros, hvalue, hlength⟩ := stripZeros_spec (decimalLength steps) h
  refine ⟨hpos, ?_⟩
  unfold Decimal.value Decimal.ofSteps
  dsimp only
  generalize stripZeros (decimalLength steps) steps = digits at hpos hvalue hlength ⊢
  rw [show (decimalLength steps + grid - decimalLength digits : Int) = zeros + grid by omega,
    zpow_add₀ (by norm_num), zpow_natCast, hvalue]
  push_cast
  ring

/-! ## The shortest digits -/

/-- What is found on the grids is a point in the rounding interval. -/
theorem rounds_of_coarsest? (hpos : 0 < significand) {point grid : Int} {steps : Nat}
    (h : coarsest? (intervalOf significand exponent) exponent point = some (steps, grid)) :
    Rounds significand exponent (steps * 10 ^ grid) := by
  obtain ⟨count, _, hcount⟩ := List.exists_of_findSome?_eq_some h
  obtain ⟨candidate, hnearest, heq⟩ := Option.map_eq_some_iff.1 hcount
  cases heq
  exact (holds_intervalOf_iff hpos).1 (holds_of_nearest? hnearest)

/-- Something is found on the grids, on the last one at least. -/
theorem exists_coarsest? (hcanonical : IsCanonical significand exponent)
    (hpos : 0 < significand) :
    ∃ steps grid, coarsest? (intervalOf significand exponent) exponent
      (pointOf significand exponent) = some (steps, grid) := by
  cases hfound : coarsest? (intervalOf significand exponent) exponent
      (pointOf significand exponent) with
  | some found => exact ⟨found.1, found.2, rfl⟩
  | none =>
      have hlast := List.findSome?_eq_none_iff.1 hfound 16 (by decide)
      have hsome := isSome_nearest? hcanonical hpos
      rw [Option.map_eq_none_iff] at hlast
      have hcount : pointOf significand exponent - ((16 : Nat) + 1) =
          pointOf significand exponent - 17 := rfl
      rw [← hcount, hlast] at hsome
      cases hsome

/-- The shortest digits of a number lie in its rounding interval. -/
theorem shortest_rounds (hcanonical : IsCanonical significand exponent) (hpos : 0 < significand) :
    0 < (shortest significand exponent).digits ∧
      Rounds significand exponent (shortest significand exponent).value := by
  obtain ⟨steps, grid, hfound⟩ := exists_coarsest? hcanonical hpos
  have hrounds := rounds_of_coarsest? hpos hfound
  have hshortest : shortest significand exponent = .ofSteps steps grid := by
    rw [shortest, hfound]
    rfl
  have hsteps : 0 < steps := by
    by_contra hzero
    obtain rfl : steps = 0 := by omega
    have hone : (1 : ℚ) ≤ significand := by exact_mod_cast hpos
    have hlow := hrounds.bounds.1
    rw [Nat.cast_zero, zero_mul, zero_div] at hlow
    linarith
  obtain ⟨hdigits, hvalue⟩ := ofSteps_value hsteps grid
  rw [hshortest, hvalue]
  exact ⟨hdigits, hrounds⟩

end PagedForm.Binary64
