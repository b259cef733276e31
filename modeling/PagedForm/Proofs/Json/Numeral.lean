import Mathlib.Algebra.Ring.Nat
import PagedForm.Json.Reader

/-!
# Reading numbers in JSON

A number is spelled by a sign, the digits of its whole part, those of a fraction and an exponent.
`readNumber_write` says what such a spelling is read as, whatever stands behind it, as long as that
does not go on with the number.
-/

namespace PagedForm.Json

/-! ## Digits -/

/-- The digits of a number spell it. -/
@[simp] theorem digitsValue_toDigits (n : Nat) : digitsValue (Nat.toDigits 10 n) = n := by
  have hfold : digitsValue (Nat.toDigits 10 n) = Nat.ofDigitChars 10 (Nat.toDigits 10 n) 0 := by
    unfold digitsValue Nat.ofDigitChars
    congr 1
    funext acc c
    rw [Nat.mul_comm]
    rfl
  rw [hfold, Nat.ofDigitChars_toDigits (by decide) (by decide)]

/-- Digits before others count a power of ten. -/
theorem digitsValue_append (first second : List Char) :
    digitsValue (first ++ second) =
      digitsValue first * 10 ^ second.length + digitsValue second := by
  have hfold (acc : Nat) : second.foldl (fun acc c => acc * 10 + (c.toNat - 48)) acc =
      acc * 10 ^ second.length + digitsValue second := by
    unfold digitsValue
    induction second generalizing acc with
    | nil => simp
    | cons c rest ih =>
        rw [List.foldl_cons, List.foldl_cons, ih, ih (0 * 10 + (c.toNat - 48)), List.length_cons,
          Nat.pow_succ]
        grind
  show (first ++ second).foldl _ 0 = _
  rw [List.foldl_append, hfold]
  rfl

/-- Zeros spell zero. -/
@[simp] theorem digitsValue_zeros (count : Nat) : digitsValue (List.replicate count '0') = 0 := by
  induction count with
  | zero => rfl
  | succ count ih =>
      rw [List.replicate_succ, ← List.singleton_append, digitsValue_append, ih]
      simp [digitsValue]

/-- The digits of a number are digits. -/
theorem isDigit_of_mem_toDigits {n : Nat} {c : Char} (h : c ∈ Nat.toDigits 10 n) :
    isDigit c = true := by
  have hdigit : c.isDigit = true := Nat.isDigit_of_mem_toDigits (by decide) (by decide) h
  simpa [isDigit, Char.isDigit, Char.le_def] using hdigit

/-- A number has digits, and the first one is not zero unless the number is. -/
theorem exists_toDigits_eq_cons {n : Nat} (h : 0 < n) :
    ∃ c rest, Nat.toDigits 10 n = c :: rest ∧ c ≠ '0' := by
  induction n using Nat.strongRecOn with
  | ind n ih =>
      by_cases hsmall : n < 10
      · have hdigit : ∀ n < 10, 0 < n → n.digitChar ≠ '0' := by decide
        exact ⟨n.digitChar, [], Nat.toDigits_of_lt_base hsmall, hdigit n hsmall h⟩
      · obtain ⟨c, rest, hdigits, hzero⟩ := ih (n / 10) (by omega) (by omega)
        refine ⟨c, rest ++ [(n % 10).digitChar], ?_, hzero⟩
        rw [Nat.toDigits_of_base_le (by decide) (by omega), hdigits]
        rfl

/-- What follows does not begin with a digit. -/
def EndsDigits (rest : List Char) : Prop :=
  ∀ c ∈ rest.head?, isDigit c = false

/-- Digits are split off up to their end. -/
theorem spanDigits_append {digits rest : List Char} (hdigits : ∀ c ∈ digits, isDigit c = true)
    (hrest : EndsDigits rest) : spanDigits (digits ++ rest) = (digits, rest) := by
  have hnone : rest.takeWhile isDigit = [] ∧ rest.dropWhile isDigit = rest := by
    cases rest with
    | nil => exact ⟨rfl, rfl⟩
    | cons c rest =>
        have hc := hrest c rfl
        exact ⟨List.takeWhile_cons_of_neg (by simp [hc]), List.dropWhile_cons_of_neg (by simp [hc])⟩
  unfold spanDigits
  rw [List.takeWhile_append_of_pos hdigits, List.dropWhile_append_of_pos hdigits, hnone.1, hnone.2,
    List.append_nil]

/-! ## Spelled numbers -/

/-- The spelling of a number. Without digits there is no fraction, and an exponent has a sign. -/
structure Numeral where
  negative : Bool
  whole : List Char
  fraction : List Char
  exponent : Option (Bool × List Char)

namespace Numeral

/-- A fraction as it is written. -/
def writeFraction (fraction : List Char) : List Char :=
  if fraction = [] then [] else '.' :: fraction

/-- An exponent as it is written. -/
def writeExponent : Option (Bool × List Char) → List Char
  | none => []
  | some (negative, digits) => 'e' :: (if negative then '-' else '+') :: digits

/-- The spelling of a number without its sign. -/
def unsigned (numeral : Numeral) : List Char :=
  numeral.whole ++ (writeFraction numeral.fraction ++ writeExponent numeral.exponent)

/-- The spelling of a number. -/
def write (numeral : Numeral) : List Char :=
  if numeral.negative then '-' :: numeral.unsigned else numeral.unsigned

/-- All parts of a spelling are digits, and the whole part begins with a zero only if it is one. -/
structure IsSpelled (numeral : Numeral) : Prop where
  whole : ∀ c ∈ numeral.whole, isDigit c = true
  begins : numeral.whole = ['0'] ∨ ∃ c rest, numeral.whole = c :: rest ∧ c ≠ '0'
  fraction : ∀ c ∈ numeral.fraction, isDigit c = true
  exponent : ∀ negative digits, numeral.exponent = some (negative, digits) →
    digits ≠ [] ∧ ∀ c ∈ digits, isDigit c = true

/-- The value of an exponent. -/
def power (exponent : Option (Bool × List Char)) : Int :=
  match exponent with
  | none => 0
  | some (negative, digits) => if negative then -(digitsValue digits : Int) else digitsValue digits

end Numeral

/-- What follows does not go on with a number. -/
structure EndsNumber (rest : List Char) : Prop where
  digits : EndsDigits rest
  sign : ∀ c ∈ rest.head?, c ≠ '.' ∧ c ≠ 'e' ∧ c ≠ 'E'

/-- A whole part is read up to its end. -/
theorem readWhole_append {whole rest : List Char} (hdigits : ∀ c ∈ whole, isDigit c = true)
    (hbegins : whole = ['0'] ∨ ∃ c rest, whole = c :: rest ∧ c ≠ '0') (hrest : EndsDigits rest) :
    readWhole (whole ++ rest) = some (whole, rest) := by
  rcases hbegins with rfl | ⟨c, more, rfl, hzero⟩
  · rfl
  · have hspan := spanDigits_append hdigits hrest
    rw [List.cons_append] at hspan ⊢
    unfold readWhole
    split
    · next heq => exact absurd (List.cons.inj heq).1 hzero
    · rw [hspan]

/-- A fraction is read up to its end. -/
theorem readFraction_append {fraction rest : List Char} (hne : fraction ≠ [])
    (hdigits : ∀ c ∈ fraction, isDigit c = true) (hrest : EndsDigits rest) :
    readFraction ('.' :: (fraction ++ rest)) = some (fraction, rest) := by
  have hspan := spanDigits_append hdigits hrest
  obtain ⟨c, more, rfl⟩ := List.exists_cons_of_ne_nil hne
  simp only [readFraction, hspan]

/-- Where no point follows there is no fraction. -/
theorem readFraction_eq_none {rest : List Char} (h : ∀ c ∈ rest.head?, c ≠ '.') :
    readFraction rest = none := by
  unfold readFraction
  split
  · exact absurd rfl (h _ rfl)
  · rfl

/-- An exponent is read up to its end. -/
theorem readExponent_append {negative : Bool} {digits rest : List Char} (hne : digits ≠ [])
    (hdigits : ∀ c ∈ digits, isDigit c = true) (hrest : EndsDigits rest) :
    readExponent (Numeral.writeExponent (some (negative, digits)) ++ rest) =
      some (Numeral.power (some (negative, digits)), rest) := by
  have hspan := spanDigits_append hdigits hrest
  obtain ⟨c, more, rfl⟩ := List.exists_cons_of_ne_nil hne
  rw [List.cons_append] at hspan
  cases negative with
  | true => simp [Numeral.writeExponent, readExponent, hspan, Numeral.power]
  | false => simp [Numeral.writeExponent, readExponent, hspan, Numeral.power]

/-- Where no letter follows there is no exponent. -/
theorem readExponent_eq_none {rest : List Char} (h : ∀ c ∈ rest.head?, c ≠ 'e' ∧ c ≠ 'E') :
    readExponent rest = none := by
  cases rest with
  | nil => rfl
  | cons c rest =>
      obtain ⟨hlower, hupper⟩ := h c rfl
      simp [readExponent, hlower, hupper]

/-- What a spelled number is read as: an integer when it has neither a fraction nor an exponent. -/
def Numeral.value (numeral : Numeral) : Value :=
  if numeral.fraction = [] ∧ numeral.exponent = none then
    .int (if numeral.negative then -(digitsValue numeral.whole : Int)
      else digitsValue numeral.whole)
  else
    .float (.ofDecimal numeral.negative (digitsValue (numeral.whole ++ numeral.fraction))
      (Numeral.power numeral.exponent - numeral.fraction.length))

/-- The part of a spelling behind the whole part does not begin with a digit. -/
theorem endsDigits_writeFraction {fraction rest : List Char}
    {exponent : Option (Bool × List Char)} (hrest : EndsDigits rest) :
    EndsDigits (Numeral.writeExponent exponent ++ rest) ∧
      EndsDigits (Numeral.writeFraction fraction ++
        (Numeral.writeExponent exponent ++ rest)) := by
  have hexponent : EndsDigits (Numeral.writeExponent exponent ++ rest) := by
    cases exponent with
    | none => exact hrest
    | some found =>
        rintro _ ⟨⟩
        rfl
  refine ⟨hexponent, ?_⟩
  unfold Numeral.writeFraction
  split
  · exact hexponent
  · rintro _ ⟨⟩
    rfl

/-- A fraction is read if there is one. -/
theorem readFraction_writeFraction {numeral : Numeral} (h : numeral.IsSpelled) {rest : List Char}
    (hrest : EndsNumber rest) :
    readFraction (Numeral.writeFraction numeral.fraction ++
        (Numeral.writeExponent numeral.exponent ++ rest)) =
      if numeral.fraction = [] then none
      else some (numeral.fraction, Numeral.writeExponent numeral.exponent ++ rest) := by
  unfold Numeral.writeFraction
  split
  · refine readFraction_eq_none ?_
    cases numeral.exponent with
    | none => exact fun c hc => (hrest.sign c hc).1
    | some found =>
        rintro _ ⟨⟩
        decide
  · next hne =>
      exact readFraction_append hne h.fraction (@endsDigits_writeFraction [] _ _ hrest.digits).1

/-- An exponent is read if there is one. -/
theorem readExponent_writeExponent {numeral : Numeral} (h : numeral.IsSpelled) {rest : List Char}
    (hrest : EndsNumber rest) :
    readExponent (Numeral.writeExponent numeral.exponent ++ rest) =
      if numeral.exponent = none then none
      else some (Numeral.power numeral.exponent, rest) := by
  cases hexponent : numeral.exponent with
  | none => exact readExponent_eq_none fun c hc => (hrest.sign c hc).2
  | some found =>
      obtain ⟨hne, hdigits⟩ := h.exponent found.1 found.2 hexponent
      exact readExponent_append hne hdigits hrest.digits

/-- A spelled number is read as its value. -/
theorem readNumber_write {numeral : Numeral} (h : numeral.IsSpelled)
    (hshort : numeral.whole.length ≤ Text.maxDigits) {rest : List Char}
    (hrest : EndsNumber rest) :
    readNumber (numeral.write ++ rest) = .ok (numeral.value, rest) := by
  have hfraction := readFraction_writeFraction h hrest
  have hexponent := readExponent_writeExponent h hrest
  have hwhole : readWhole (numeral.unsigned ++ rest) = some (numeral.whole,
      Numeral.writeFraction numeral.fraction ++
        (Numeral.writeExponent numeral.exponent ++ rest)) := by
    rw [Numeral.unsigned, List.append_assoc, List.append_assoc]
    exact readWhole_append h.whole h.begins (endsDigits_writeFraction hrest.digits).2
  have hsign : ∀ more, numeral.unsigned ++ rest ≠ '-' :: more := by
    intro more heq
    rcases h.begins with hzero | ⟨c, digits, hcons, _⟩
    · simp [Numeral.unsigned, hzero] at heq
    · have hdigit := h.whole c (by simp [hcons])
      simp only [Numeral.unsigned, hcons, List.cons_append] at heq
      rw [(List.cons.inj heq).1] at hdigit
      cases hdigit
  have hlong : ¬ Text.maxDigits < numeral.whole.length := Nat.not_lt.2 hshort
  unfold readNumber Numeral.write Numeral.value
  generalize hend : Numeral.writeExponent numeral.exponent ++ rest = ending at *
  generalize hmiddle : Numeral.writeFraction numeral.fraction ++ ending = middle at *
  -- What is found of the fraction and the exponent, whether they are there or not.
  have hdecimals : ((readFraction middle).map Prod.fst).getD [] = numeral.fraction := by
    rw [hfraction]
    split
    · next hnone => exact hnone.symm
    · rfl
  have hafter : ((readFraction middle).map Prod.snd).getD middle = ending := by
    rw [hfraction]
    split
    · next hnone => rw [← hmiddle, hnone]; rfl
    · rfl
  have hpower : ((readExponent ending).map Prod.fst).getD 0 = Numeral.power numeral.exponent := by
    rw [hexponent]
    split
    · next hnone => rw [hnone]; rfl
    · rfl
  have hremaining : ((readExponent ending).map Prod.snd).getD ending = rest := by
    rw [hexponent]
    split
    · next hnone => rw [← hend, hnone]; rfl
    · rfl
  have hinteger : ((readFraction middle).isNone && (readExponent ending).isNone) = true ↔
      numeral.fraction = [] ∧ numeral.exponent = none := by
    rw [hfraction, hexponent]
    simp
  -- Without a sign the spelling begins with a digit, so `hsign` settles whether there is one.
  cases numeral.negative with
  | true =>
      simp only [if_true, List.cons_append, hwhole, hdecimals, hafter, hpower, hremaining,
        hinteger, if_neg hlong]
      split <;> rfl
  | false =>
      simp only [Bool.false_eq_true, if_false, hwhole, hdecimals, hafter, hpower, hremaining,
        hinteger, if_neg hlong]
      split <;> rfl

/-! ## Words and numbers -/

/-- No bare word begins with a digit, so a number is read there. -/
theorem readScalar_eq_readNumber {c : Char} (h : isDigit c = true) (rest : List Char) :
    readScalar (c :: rest) = readNumber (c :: rest) ∧
      readScalar ('-' :: c :: rest) = readNumber ('-' :: c :: rest) := by
  have hword (d : Char) (hd : isDigit d = false) : ¬ d = c := by
    rintro rfl
    rw [hd] at h
    cases h
  have hn := hword 'n' rfl
  have ht := hword 't' rfl
  have hf := hword 'f' rfl
  have hN := hword 'N' rfl
  have hI := hword 'I' rfl
  have hminus := hword '-' rfl
  constructor
  · simp [readScalar, bareWords, dropWord, hn, ht, hf, hN, hI, hminus]
  · simp [readScalar, bareWords, dropWord, hI]

/-- A spelled number is read as its value. -/
theorem readScalar_write {numeral : Numeral} (h : numeral.IsSpelled)
    (hshort : numeral.whole.length ≤ Text.maxDigits) {rest : List Char}
    (hrest : EndsNumber rest) :
    readScalar (numeral.write ++ rest) = .ok (numeral.value, rest) := by
  obtain ⟨c, digits, hcons⟩ : ∃ c digits, numeral.whole = c :: digits := by
    rcases h.begins with hzero | ⟨c, digits, hcons, _⟩
    · exact ⟨_, _, hzero⟩
    · exact ⟨_, _, hcons⟩
  have hdigit : isDigit c = true := h.whole c (by simp [hcons])
  rw [← readNumber_write h hshort hrest]
  unfold Numeral.write Numeral.unsigned
  rw [hcons]
  split
  · exact (readScalar_eq_readNumber hdigit _).2
  · exact (readScalar_eq_readNumber hdigit _).1

/-- An integer is spelled by its digits. -/
theorem exists_numeral_int (n : Int) :
    ∃ numeral : Numeral, numeral.IsSpelled ∧ numeral.write = (toString n).toList ∧
      numeral.whole = Nat.toDigits 10 n.natAbs ∧ numeral.value = .int n := by
  have hbegins : Nat.toDigits 10 n.natAbs = ['0'] ∨
      ∃ c rest, Nat.toDigits 10 n.natAbs = c :: rest ∧ c ≠ '0' := by
    rcases Nat.eq_zero_or_pos n.natAbs with hzero | hpos
    · rw [hzero]
      exact .inl rfl
    · exact .inr (exists_toDigits_eq_cons hpos)
  refine ⟨⟨decide (n < 0), Nat.toDigits 10 n.natAbs, [], none⟩,
    ⟨fun c => isDigit_of_mem_toDigits, hbegins, by simp, by rintro _ _ ⟨⟩⟩, ?_, rfl, ?_⟩
  · cases n with
    | ofNat m =>
        show _ = m.repr.toList
        rw [Nat.toList_repr]
        simp [Numeral.write, Numeral.unsigned, Numeral.writeFraction, Numeral.writeExponent]
    | negSucc m =>
        show _ = ("-" ++ (m + 1).repr).toList
        rw [String.toList_append, Nat.toList_repr]
        simp [Numeral.write, Numeral.unsigned, Numeral.writeFraction, Numeral.writeExponent,
          Int.negSucc_lt_zero]
  · simp only [Numeral.value, digitsValue_toDigits, and_self, if_true, decide_eq_true_eq]
    split <;> congr 2 <;> omega

/-- An integer that is not too long is read from its text. -/
theorem readScalar_int {n : Int} (h : (Nat.toDigits 10 n.natAbs).length ≤ Text.maxDigits)
    {rest : List Char} (hrest : EndsNumber rest) :
    readScalar ((toString n).toList ++ rest) = .ok (.int n, rest) := by
  obtain ⟨numeral, hspelled, hwrite, hwhole, hvalue⟩ := exists_numeral_int n
  rw [← hwhole] at h
  rw [← hwrite, readScalar_write hspelled h hrest, hvalue]

end PagedForm.Json
