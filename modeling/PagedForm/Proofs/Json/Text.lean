import PagedForm.Json.Reader
import PagedForm.Json.Writer

/-!
# Strings in JSON

A string is read as the text that was quoted. The only place where characters meet is a pair of
halves: the reader joins a high half with a low half behind it, so the writer spells a stand-in that
would be joined by its own code. `readString_foldr` carries this through a text as an invariant: when
a high half is pending, what follows does not begin with a low one.
-/

namespace PagedForm.Json

/-! ## Escaped units -/

/-- A hexadecimal digit has its value. -/
theorem hexValue?_hexDigit {n : Nat} (h : n < 16) : hexValue? (Text.hexDigit n) = some n := by
  have hall : ∀ n < 16, hexValue? (Text.hexDigit n) = some n := by decide
  exact hall n h

/-- The four digits of a unit. -/
theorem escapedUnit_eq (unit : Nat) :
    escapedUnit unit =
      ['\\', 'u', Text.hexDigit (unit / 16 / 16 / 16 % 16), Text.hexDigit (unit / 16 / 16 % 16),
        Text.hexDigit (unit / 16 % 16), Text.hexDigit (unit % 16)] :=
  rfl

/-- The digits of a unit spell it. -/
theorem unitOf?_hexDigit {unit : Nat} (h : unit < 0x10000) :
    unitOf? (Text.hexDigit (unit / 16 / 16 / 16 % 16)) (Text.hexDigit (unit / 16 / 16 % 16))
      (Text.hexDigit (unit / 16 % 16)) (Text.hexDigit (unit % 16)) = some unit := by
  have hlt (n : Nat) : n % 16 < 16 := Nat.mod_lt n (by decide)
  have hvalue : ((unit / 16 / 16 / 16 % 16 * 16 + unit / 16 / 16 % 16) * 16 +
      unit / 16 % 16) * 16 + unit % 16 = unit := by
    omega
  simp [unitOf?, hexValue?_hexDigit (hlt _), hvalue]

/-- An escaped unit is read and put behind what was read before. -/
theorem readString_escapedUnit {unit : Nat} (h : unit < 0x10000) (half : Option Nat)
    (acc rest : List Char) :
    readString half acc (escapedUnit unit ++ rest) =
      readString (putUnit half acc unit).1 (putUnit half acc unit).2 rest := by
  rw [escapedUnit_eq]
  simp only [List.cons_append, List.nil_append]
  rw [readString, unitOf?_hexDigit h]

/-- The escape of a low half is seen to begin with one. -/
theorem beginsLow_escapedUnit {unit : Nat} (h : Text.isLowHalf unit = true) (rest : List Char) :
    beginsLow (escapedUnit unit ++ rest) = true := by
  have hbounds : 0xDC00 ≤ unit ∧ unit < 0xE000 := by
    simpa [Text.isLowHalf] using h
  have hfirst : unit / 16 / 16 / 16 % 16 = 13 := by omega
  have hsecond : ∀ digit < 16, 12 ≤ digit →
      ('c' ≤ Text.hexDigit digit && Text.hexDigit digit ≤ 'f') = true := by
    decide
  rw [escapedUnit_eq, hfirst]
  exact hsecond _ (Nat.mod_lt _ (by decide)) (by omega)

/-! ## Written characters -/

/-- The code of a character is below the end of all codes and is no half. -/
theorem toNat_bounds (c : Char) : c.toNat < 0x110000 ∧ ¬ Text.isHalf c.toNat = true := by
  have hvalid : c.toNat.isValidChar := c.valid
  rw [Text.isHalf_iff]
  rcases hvalid with hlow | ⟨hhigh, hend⟩ <;> omega

/-- A character is found again in its code, whether that is its own or a half. -/
theorem charOf_codeOf (c : Char) : Text.charOf (Text.codeOf c) = c := by
  unfold Text.codeOf Text.charOf
  split
  · next hhalf =>
      have hbounds := Text.isHalf_iff.1 hhalf
      have hsum : c.toNat - Text.standInDistance + Text.standInDistance = c.toNat := by omega
      rw [hsum, Char.ofNat_toNat]
  · rw [if_neg (toNat_bounds c).2, Char.ofNat_toNat]

/-- The text of a character before the rest of a string, as the reader sees it: a short escape, the
character itself, one unit, or the two units of a pair. A high half stands alone only where no low
one follows. -/
inductive IsPut (c : Char) (rest : List Char) : List Char → Prop where
  | short {e : Char} : e ≠ 'u' → shortEscape? e = some c → IsPut c rest ('\\' :: e :: rest)
  | plain : 0x20 ≤ c.toNat → c ≠ '"' → c ≠ '\\' → IsPut c rest (c :: rest)
  | unit {unit : Nat} : unit < 0x10000 → Text.charOf unit = c →
      (Text.isHighHalf unit = true → beginsLow rest = false) →
      IsPut c rest (escapedUnit unit ++ rest)
  | pair {high low : Nat} : Text.isHighHalf high = true → Text.isLowHalf low = true →
      joinHalves high low = c → IsPut c rest (escapedUnit high ++ (escapedUnit low ++ rest))

/-- The escape of a character above the codes of sixteen bits is a pair. -/
theorem isPut_escapeCode_of_le {c : Char} (h : 0x10000 ≤ c.toNat) (rest : List Char) :
    IsPut c rest (escapeCode c.toNat ++ rest) := by
  obtain ⟨hend, _⟩ := toNat_bounds c
  rw [escapeCode, if_neg (by omega), List.append_assoc]
  refine .pair ?_ ?_ ?_
  · simp only [Text.isHighHalf, Bool.and_eq_true, decide_eq_true_eq]
    omega
  · simp only [Text.isLowHalf, Bool.and_eq_true, decide_eq_true_eq]
    omega
  · have hcode : 0x10000 + (0xD800 + (c.toNat - 0x10000) / 0x400 - 0xD800) * 0x400 +
        (0xDC00 + (c.toNat - 0x10000) % 0x400 - 0xDC00) = c.toNat := by
      omega
    rw [joinHalves, hcode, Char.ofNat_toNat]

/-- The escape of a code is a unit or a pair. -/
theorem isPut_escapeCode_codeOf {c : Char} {rest : List Char}
    (h : Text.isHighHalf (Text.codeOf c) = true → beginsLow rest = false) :
    IsPut c rest (escapeCode (Text.codeOf c) ++ rest) := by
  by_cases hunit : Text.codeOf c < 0x10000
  · rw [escapeCode, if_pos hunit]
    exact .unit hunit (charOf_codeOf c) h
  · have hown : Text.codeOf c = c.toNat := by
      unfold Text.codeOf at hunit ⊢
      split
      · next hhalf =>
          rw [if_pos hhalf] at hunit
          have hbounds := Text.isHalf_iff.1 hhalf
          omega
      · rfl
    rw [hown] at hunit ⊢
    exact isPut_escapeCode_of_le (by omega) rest

/-- Every character is written in one of these ways. -/
theorem isPut_putChar (c : Char) (rest : List Char) : IsPut c rest (putChar c rest) := by
  unfold putChar
  dsimp only
  split
  · next h =>
      subst h
      exact .short (by decide) rfl
  split
  · next h =>
      subst h
      exact .short (by decide) rfl
  split
  · next h =>
      subst h
      exact .short (by decide) rfl
  split
  · next h =>
      subst h
      exact .short (by decide) rfl
  split
  · next h =>
      subst h
      exact .short (by decide) rfl
  split
  · next h =>
      obtain rfl : c = '\x08' := Char.toNat_inj.1 h
      exact .short (by decide) rfl
  split
  · next h =>
      obtain rfl : c = '\x0c' := Char.toNat_inj.1 h
      exact .short (by decide) rfl
  split
  · next hquote hback _ _ _ _ _ hplain => exact .plain hplain.1 hquote hback
  split
  · next hpair =>
      refine isPut_escapeCode_of_le ?_ rest
      rw [Bool.and_eq_true] at hpair
      have hhalf : Text.isHalf (Text.codeOf c) = true := by simp [Text.isHalf, hpair.1]
      unfold Text.codeOf at hhalf
      split at hhalf
      · have hbounds := Text.isHalf_iff.1 hhalf
        have hdistance : Text.standInDistance = 0x100000 := rfl
        omega
      · exact absurd hhalf (toNat_bounds c).2
  · next hpair =>
      refine isPut_escapeCode_codeOf fun hhigh => ?_
      simpa [hhigh] using hpair

/-! ## Reading strings -/

/-- A unit that is no low half behind a pending high one stands for itself. What was read is then
the same whether it is a high half that is kept apart or not. -/
theorem withHalf_putUnit {half : Option Nat} {unit : Nat}
    (h : Text.isLowHalf unit = true → half = none) (acc : List Char) :
    withHalf (putUnit half acc unit).1 (putUnit half acc unit).2 =
      Text.charOf unit :: withHalf half acc := by
  unfold putUnit
  split
  · rfl
  · cases half with
    | none => rfl
    | some high =>
        have hlow : ¬ Text.isLowHalf unit = true := fun hlow => by cases h hlow
        simp [hlow, withHalf]

/-- Only a high half is kept apart. -/
theorem isHighHalf_of_mem_putUnit {half : Option Nat} {unit high : Nat} {acc : List Char}
    (h : high ∈ (putUnit half acc unit).1) : high = unit ∧ Text.isHighHalf unit = true := by
  unfold putUnit at h
  split at h
  · next hhigh => exact ⟨(Option.some.inj h).symm, hhigh⟩
  · split at h
    · split at h <;> cases h
    · cases h

/-- The two units of a pair are joined. -/
theorem putUnit_pair {high low : Nat} (hhigh : Text.isHighHalf high = true)
    (hlow : Text.isLowHalf low = true) (half : Option Nat) (acc : List Char) :
    putUnit (putUnit half acc high).1 (putUnit half acc high).2 low =
      (none, joinHalves high low :: withHalf half acc) := by
  have hnot : ¬ Text.isHighHalf low = true := by
    simp only [Text.isLowHalf, Text.isHighHalf, Bool.and_eq_true, decide_eq_true_eq] at hlow ⊢
    omega
  simp [putUnit, hhigh, hlow, hnot]

/-- A half is a unit. -/
theorem lt_of_isHalf {unit : Nat} (h : Text.isHighHalf unit = true ∨ Text.isLowHalf unit = true) :
    unit < 0x10000 := by
  have hhalf : Text.isHalf unit = true := by simpa [Text.isHalf] using h
  have hbounds := Text.isHalf_iff.1 hhalf
  omega

/-- A short escape is read as its character. -/
theorem readString_short {e c : Char} (hu : e ≠ 'u') (h : shortEscape? e = some c)
    (half : Option Nat) (acc rest : List Char) :
    readString half acc ('\\' :: e :: rest) = readString none (c :: withHalf half acc) rest := by
  rw [readString, h]
  rintro _ _ _ _ _ rfl
  exact absurd rfl hu

/-- A character that needs no escape is read as itself. -/
theorem readString_plain {c : Char} (hcontrol : 0x20 ≤ c.toNat) (hquote : c ≠ '"')
    (hback : c ≠ '\\') (half : Option Nat) (acc rest : List Char) :
    readString half acc (c :: rest) = readString none (c :: withHalf half acc) rest := by
  rw [readString]
  · simp [hback, Nat.not_lt.2 hcontrol]
  · exact hquote
  · rintro _ _ _ _ _ rfl
    exact absurd rfl hback
  · rintro _ _ rfl
    exact absurd rfl hback

/-- The characters of a string are read up to its closing quote. A high half that is pending is not
followed by a low one. -/
theorem readString_foldr {half : Option Nat} {chars : List Char}
    (h : ∀ high ∈ half, beginsLow (chars.foldr putChar ['"']) = false) (acc rest : List Char) :
    readString half acc (chars.foldr putChar ['"'] ++ rest) =
      .ok (String.ofList ((withHalf half acc).reverse ++ chars), rest) := by
  induction chars generalizing half acc with
  | nil => simp [readString]
  | cons c chars ih =>
      rw [List.foldr_cons] at h ⊢
      generalize chars.foldr putChar ['"'] = body at h ih ⊢
      have hnone : ∀ high ∈ (none : Option Nat), beginsLow body = false := by
        rintro _ ⟨⟩
      have hput := isPut_putChar c body
      generalize putChar c body = text at h hput ⊢
      cases hput with
      | short hu hshort =>
          rw [List.cons_append, List.cons_append, readString_short hu hshort, ih hnone]
          simp [withHalf]
      | plain hcontrol hquote hback =>
          rw [List.cons_append, readString_plain hcontrol hquote hback, ih hnone]
          simp [withHalf]
      | @unit unit hunit hchar halone =>
          have halone' : Text.isLowHalf unit = true → half = none := by
            intro hlow
            rcases half with _ | high
            · rfl
            · rw [beginsLow_escapedUnit hlow] at h
              cases h high rfl
          rw [List.append_assoc, readString_escapedUnit hunit, ih, withHalf_putUnit halone', hchar]
          · simp
          · intro high hhigh
            exact halone (isHighHalf_of_mem_putUnit hhigh).2
      | @pair high low hhigh hlow hjoin =>
          rw [List.append_assoc, List.append_assoc,
            readString_escapedUnit (lt_of_isHalf (.inl hhigh)),
            readString_escapedUnit (lt_of_isHalf (.inr hlow)), putUnit_pair hhigh hlow, ih hnone,
            hjoin]
          simp [withHalf]

/-- A quoted text is read as it was. -/
theorem readString_quote (s : String) (rest : List Char) :
    ∃ body, quote s ++ rest = '"' :: body ∧ readString none [] body = .ok (s, rest) := by
  refine ⟨s.toList.foldr putChar ['"'] ++ rest, rfl, ?_⟩
  rw [readString_foldr (by rintro _ ⟨⟩)]
  simp [withHalf]

end PagedForm.Json
