import PagedForm.Json.Writer
import PagedForm.Proofs.Binary64.Shortest
import PagedForm.Proofs.Json.Numeral

/-!
# Binary64 numbers in JSON

The text of a finite number is a spelled number with a fraction or an exponent, and its digits are
the shortest ones of the number. So it is read as the same number.
-/

namespace PagedForm.Binary64

open Json

variable {decimal : Decimal}

/-- A decimal number is written as this spelling, which has a fraction or an exponent, and the
spelling stands for it. -/
structure Decimal.IsSpelledBy (decimal : Decimal) (numeral : Numeral) : Prop where
  unsigned : numeral.unsigned = decimal.write shownLayout
  spelled : numeral.IsSpelled
  short : numeral.whole.length ≤ Text.maxDigits
  broken : ¬ (numeral.fraction = [] ∧ numeral.exponent = none)
  value : (digitsValue (numeral.whole ++ numeral.fraction) : ℚ) *
    10 ^ (Numeral.power numeral.exponent - numeral.fraction.length) = decimal.value

/-- The digits of an exponent: at least two. -/
def exponentDigits (exponent : Int) : List Char :=
  let digits := Nat.toDigits 10 exponent.natAbs
  if digits.length < 2 then '0' :: digits else digits

/-- The digits of an exponent are digits and spell its size. -/
theorem exponentDigits_spec (exponent : Int) :
    exponentDigits exponent ≠ [] ∧ (∀ c ∈ exponentDigits exponent, isDigit c = true) ∧
      digitsValue (exponentDigits exponent) = exponent.natAbs := by
  have hdigits : ∀ c ∈ Nat.toDigits 10 exponent.natAbs, isDigit c = true :=
    fun c => isDigit_of_mem_toDigits
  have hlength : 0 < (Nat.toDigits 10 exponent.natAbs).length := Nat.length_toDigits_pos
  unfold exponentDigits
  dsimp only
  split
  · refine ⟨List.cons_ne_nil _ _, List.forall_mem_cons.2 ⟨rfl, hdigits⟩, ?_⟩
    rw [← List.singleton_append, digitsValue_append, digitsValue_toDigits]
    simp [digitsValue]
  · exact ⟨List.ne_nil_of_length_pos hlength, hdigits, digitsValue_toDigits _⟩

section

variable (hpos : 0 < decimal.digits) (negative : Bool)
include hpos

/-- A number below one is written with zeros behind the point. -/
theorem isSpelledBy_small (hlow : shownLayout.lowestPoint ≤ decimal.point)
    (hhigh : decimal.point ≤ 0) :
    decimal.IsSpelledBy ⟨negative, ['0'],
      List.replicate (-decimal.point).toNat '0' ++ Nat.toDigits 10 decimal.digits, none⟩ := by
  obtain ⟨c, rest, hdigits, _⟩ := exists_toDigits_eq_cons hpos
  have hlayout : decimal.point ≤ shownLayout.highestPoint := hhigh.trans (by decide)
  have hvalue : digitsValue (['0'] ++ (List.replicate (-decimal.point).toNat '0' ++
      Nat.toDigits 10 decimal.digits)) = decimal.digits := by
    rw [digitsValue_append, digitsValue_append, digitsValue_zeros, digitsValue_toDigits]
    simp [digitsValue]
  refine ⟨?_, ⟨List.forall_mem_singleton.2 rfl, .inl rfl, ?_, ?_⟩, ?_, ?_, ?_⟩
  · unfold Decimal.write
    dsimp only
    rw [if_pos ⟨hlow, hlayout⟩, if_pos hhigh]
    simp [Numeral.unsigned, Numeral.writeFraction, Numeral.writeExponent, hdigits]
  · intro c hc
    rcases List.mem_append.1 hc with hzero | hdigit
    · rw [List.eq_of_mem_replicate hzero]
      rfl
    · exact isDigit_of_mem_toDigits hdigit
  · rintro _ _ ⟨⟩
  · exact (by decide : 1 ≤ Text.maxDigits)
  · simp [hdigits]
  · rw [hvalue, Decimal.value]
    congr 2
    rw [List.length_append, List.length_replicate, Numeral.power, decimalLength]
    omega

/-- A whole number is written with zeros before the point and one behind it. -/
theorem isSpelledBy_whole (hlow : ¬ decimal.point ≤ 0)
    (hhigh : decimal.point ≤ shownLayout.highestPoint)
    (hlength : (Nat.toDigits 10 decimal.digits).length ≤ decimal.point.toNat) :
    decimal.IsSpelledBy ⟨negative, Nat.toDigits 10 decimal.digits ++
      List.replicate (decimal.point.toNat - (Nat.toDigits 10 decimal.digits).length) '0',
      ['0'], none⟩ := by
  obtain ⟨c, rest, hdigits, hzero⟩ := exists_toDigits_eq_cons hpos
  have hlayout : shownLayout.lowestPoint ≤ decimal.point :=
    le_trans (show shownLayout.lowestPoint ≤ 0 by decide) (not_le.1 hlow).le
  have hmost : decimal.point ≤ 16 := hhigh
  refine ⟨?_, ⟨?_, .inr ?_, List.forall_mem_singleton.2 rfl, ?_⟩, ?_, ?_, ?_⟩
  · unfold Decimal.write
    dsimp only
    rw [if_pos ⟨hlayout, hhigh⟩, if_neg hlow, if_pos hlength]
    simp [Numeral.unsigned, Numeral.writeFraction, Numeral.writeExponent, shownLayout]
  · intro c hc
    rcases List.mem_append.1 hc with hdigit | hzero
    · exact isDigit_of_mem_toDigits hdigit
    · rw [List.eq_of_mem_replicate hzero]
      rfl
  · rw [hdigits]
    exact ⟨c, _, rfl, hzero⟩
  · rintro _ _ ⟨⟩
  · have hmax : 16 ≤ Text.maxDigits := by decide
    rw [List.length_append, List.length_replicate]
    omega
  · simp
  · have hpower : (decimal.point - decimalLength decimal.digits : Int) =
        ((decimal.point.toNat - (Nat.toDigits 10 decimal.digits).length : Nat) : Int) := by
      rw [decimalLength]
      omega
    have hlast : digitsValue ['0'] = 0 := rfl
    rw [digitsValue_append, digitsValue_append, digitsValue_zeros, digitsValue_toDigits, hlast,
      Decimal.value, hpower, zpow_natCast, List.length_replicate, Numeral.power]
    norm_num
    ring

/-- A number with more digits than stand before the point is written with the others behind it. -/
theorem isSpelledBy_split (hlow : ¬ decimal.point ≤ 0)
    (hhigh : decimal.point ≤ shownLayout.highestPoint)
    (hlength : ¬ (Nat.toDigits 10 decimal.digits).length ≤ decimal.point.toNat) :
    decimal.IsSpelledBy ⟨negative, (Nat.toDigits 10 decimal.digits).take decimal.point.toNat,
      (Nat.toDigits 10 decimal.digits).drop decimal.point.toNat, none⟩ := by
  obtain ⟨c, rest, hdigits, hzero⟩ := exists_toDigits_eq_cons hpos
  have hlayout : shownLayout.lowestPoint ≤ decimal.point :=
    le_trans (show shownLayout.lowestPoint ≤ 0 by decide) (not_le.1 hlow).le
  have hmost : decimal.point ≤ 16 := hhigh
  have hfraction : (Nat.toDigits 10 decimal.digits).drop decimal.point.toNat ≠ [] := by
    simpa using hlength
  refine ⟨?_, ⟨?_, .inr ?_, ?_, ?_⟩, ?_, ?_, ?_⟩
  · unfold Decimal.write
    dsimp only
    rw [if_pos ⟨hlayout, hhigh⟩, if_neg hlow, if_neg hlength]
    simp [Numeral.unsigned, Numeral.writeFraction, Numeral.writeExponent, hfraction]
  · exact fun c hc => isDigit_of_mem_toDigits (List.mem_of_mem_take hc)
  · obtain ⟨count, hcount⟩ : ∃ count, decimal.point.toNat = count + 1 :=
      ⟨decimal.point.toNat - 1, by omega⟩
    rw [hcount, hdigits]
    exact ⟨c, _, rfl, hzero⟩
  · exact fun c hc => isDigit_of_mem_toDigits (List.mem_of_mem_drop hc)
  · rintro _ _ ⟨⟩
  · have hmax : 16 ≤ Text.maxDigits := by decide
    rw [List.length_take]
    omega
  · exact fun h => hfraction h.1
  · rw [List.take_append_drop, digitsValue_toDigits, Decimal.value]
    congr 2
    rw [List.length_drop, Numeral.power, decimalLength]
    omega

/-- A number out of the range of the layout is written with an exponent. -/
theorem isSpelledBy_exponent
    (hrange : ¬ (shownLayout.lowestPoint ≤ decimal.point ∧
      decimal.point ≤ shownLayout.highestPoint)) :
    decimal.IsSpelledBy ⟨negative, (Nat.toDigits 10 decimal.digits).take 1,
      (Nat.toDigits 10 decimal.digits).drop 1,
      some (decide (decimal.point - 1 < 0), exponentDigits (decimal.point - 1))⟩ := by
  obtain ⟨c, rest, hdigits, hzero⟩ := exists_toDigits_eq_cons hpos
  obtain ⟨hne, hexponent, hsize⟩ := exponentDigits_spec (decimal.point - 1)
  refine ⟨?_, ⟨?_, .inr ?_, ?_, ?_⟩, ?_, ?_, ?_⟩
  · unfold Decimal.write
    dsimp only
    rw [if_neg hrange, hdigits]
    have hsign : exponentText (decimal.point - 1) =
        Numeral.writeExponent
          (some (decide (decimal.point - 1 < 0), exponentDigits (decimal.point - 1))) := by
      simp [exponentText, Numeral.writeExponent, exponentDigits]
    rw [hsign]
    cases rest with
    | nil => rfl
    | cons d more =>
        have hlong : ¬ (c :: d :: more).length < 2 := by simp
        rw [if_neg hlong]
        simp [Numeral.unsigned, Numeral.writeFraction]
  · exact fun c hc => isDigit_of_mem_toDigits (List.mem_of_mem_take hc)
  · rw [hdigits]
    exact ⟨c, [], rfl, hzero⟩
  · exact fun c hc => isDigit_of_mem_toDigits (List.mem_of_mem_drop hc)
  · rintro _ _ ⟨⟩
    exact ⟨hne, hexponent⟩
  · rw [hdigits]
    exact (by decide : 1 ≤ Text.maxDigits)
  · simp
  · have hlength : decimalLength decimal.digits = rest.length + 1 := by
      rw [decimalLength, hdigits, List.length_cons]
    rw [List.take_append_drop, digitsValue_toDigits, Decimal.value, hlength, hdigits]
    congr 2
    rw [List.drop_one, List.tail_cons, Numeral.power, hsize]
    simp only [decide_eq_true_eq]
    split <;> omega

end

/-- A decimal number is spelled with any sign. -/
theorem exists_isSpelledBy (hpos : 0 < decimal.digits) (negative : Bool) :
    ∃ numeral : Numeral, numeral.negative = negative ∧ decimal.IsSpelledBy numeral := by
  by_cases hrange : shownLayout.lowestPoint ≤ decimal.point ∧
      decimal.point ≤ shownLayout.highestPoint
  · by_cases hlow : decimal.point ≤ 0
    · exact ⟨_, rfl, isSpelledBy_small hpos negative hrange.1 hlow⟩
    · by_cases hlength : (Nat.toDigits 10 decimal.digits).length ≤ decimal.point.toNat
      · exact ⟨_, rfl, isSpelledBy_whole hpos negative hlow hrange.2 hlength⟩
      · exact ⟨_, rfl, isSpelledBy_split hpos negative hlow hrange.2 hlength⟩
  · exact ⟨_, rfl, isSpelledBy_exponent hpos negative hrange⟩

/-- A spelling of the shortest digits of a number is read as the number. -/
theorem value_of_isSpelledBy {significand : Nat} {exponent : Int}
    (hcanonical : IsCanonical significand exponent) (hpos : 0 < significand) {numeral : Numeral}
    (h : (shortest significand exponent).IsSpelledBy numeral) :
    numeral.value = .float (.finite numeral.negative significand exponent) := by
  obtain ⟨_, hrounds⟩ := shortest_rounds hcanonical hpos
  rw [← h.value] at hrounds
  have hdigits : 0 < digitsValue (numeral.whole ++ numeral.fraction) := by
    by_contra hzero
    obtain hzero : digitsValue (numeral.whole ++ numeral.fraction) = 0 := by omega
    have hleast := (hrounds.range hcanonical hpos).1
    rw [hzero, Nat.cast_zero, zero_mul] at hleast
    exact absurd hleast (not_le.2 (by positivity))
  rw [Numeral.value, if_neg h.broken, ofDecimal_of_rounds hdigits hcanonical hpos hrounds]

end PagedForm.Binary64

namespace PagedForm.Json

/-- Zero is spelled with a fraction and read with its sign. -/
theorem readScalar_zero (negative : Bool) {rest : List Char} (hrest : EndsNumber rest) :
    readScalar ((Numeral.mk negative ['0'] ['0'] none).write ++ rest) =
      .ok (.float (.signedZero negative), rest) := by
  have hzero : ∀ c ∈ ['0'], isDigit c = true := List.forall_mem_singleton.2 rfl
  have hspelled : (Numeral.mk negative ['0'] ['0'] none).IsSpelled :=
    ⟨hzero, .inl rfl, hzero, by rintro _ _ ⟨⟩⟩
  exact readScalar_write hspelled (by decide : 1 ≤ Text.maxDigits) hrest

/-- A number that rounding gives is read from its text. -/
theorem readScalar_floatText {x : Binary64} (h : x.IsRounded) {rest : List Char}
    (hrest : EndsNumber rest) :
    readScalar ((floatText x).toList ++ rest) = .ok (.float x, rest) := by
  cases x with
  | nan => rfl
  | infinite negative => cases negative <;> rfl
  | finite negative significand exponent =>
      by_cases hzero : significand = 0
      · have hleast : exponent = Binary64.minExponent := by
          refine le_antisymm (not_lt.1 fun hlt => ?_) h.least
          have hfull := h.full hlt
          rw [hzero] at hfull
          exact absurd hfull (by decide)
        have hread := readScalar_zero negative hrest
        rw [hzero, hleast]
        cases negative <;> exact hread
      · have hpos : 0 < significand := Nat.pos_of_ne_zero hzero
        obtain ⟨numeral, rfl, hspelled⟩ := Binary64.exists_isSpelledBy
          (Binary64.shortest_rounds h hpos).1 negative
        have htext : (floatText (.finite numeral.negative significand exponent)).toList =
            numeral.write := by
          show (String.ofList _).toList = _
          rw [String.toList_ofList, Numeral.write, hspelled.unsigned, if_neg hzero]
        rw [htext, readScalar_write hspelled.spelled hspelled.short hrest,
          Binary64.value_of_isSpelledBy h hpos hspelled]

end PagedForm.Json
