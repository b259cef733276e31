/-!
# Halves of surrogate pairs

Escapes name characters by codes of sixteen bits, and the characters above those by pairs of
surrogates. An escape may also name a half of such a pair on its own, which is the code of no
character. A stand-in from the last private plane is kept in a text for it, so that the half can be
written again. `isHalf_iff` says which codes are halves.
-/

namespace PagedForm.Text

/-- The code begins a pair. -/
def isHighHalf (code : Nat) : Bool :=
  0xD800 ≤ code && code < 0xDC00

/-- The code ends a pair. -/
def isLowHalf (code : Nat) : Bool :=
  0xDC00 ≤ code && code < 0xE000

/-- The code is a half of a pair. -/
def isHalf (code : Nat) : Bool :=
  isHighHalf code || isLowHalf code

/-- How far the stand-in of a half lies behind it. -/
def standInDistance : Nat := 0x100000

/-- The character of a code, or the stand-in of a half. -/
def charOf (code : Nat) : Char :=
  Char.ofNat (if isHalf code then code + standInDistance else code)

/-- The code of a character, or the half that it stands in for. -/
def codeOf (c : Char) : Nat :=
  if isHalf (c.toNat - standInDistance) then c.toNat - standInDistance else c.toNat

/-- The character stands in for a half. -/
def isStandIn (c : Char) : Bool :=
  codeOf c != c.toNat

/-- The halves are the codes between those of the characters. -/
theorem isHalf_iff {code : Nat} : isHalf code = true ↔ 0xD800 ≤ code ∧ code < 0xE000 := by
  simp only [isHalf, isHighHalf, isLowHalf, Bool.or_eq_true, Bool.and_eq_true, decide_eq_true_eq]
  omega

end PagedForm.Text
