import PagedForm.Text.Digit

/-!
# Integers in texts

An integer is written with an optional sign and decimal digits of any script; single underscores
may separate digits, and blanks may surround the whole. `integer` tells a text that spells no
integer from one with too many digits.
-/

namespace PagedForm.Text

/-- Why a text is no integer. -/
inductive NumeralFault where
  | malformed
  | long (digits : Nat)
  deriving DecidableEq, Repr

/-- Integers with more digits than this are not read. -/
def maxDigits : Nat := 4300

/-- Blanks that may surround an integer: all but the information separators. -/
def isNumeralBlank (c : Char) : Bool :=
  isBlank c && !(0x1C ≤ c.toNat && c.toNat ≤ 0x1F)

/-- The values of the digits at the front, and what follows them. An underscore has to stand
between two digits; `pending` says that one was just read. -/
def readDigits (pending : Bool) : List Char → Option (List Nat × List Char)
  | [] => if pending then none else some ([], [])
  | c :: rest =>
      match decimalValue? c with
      | some value => (readDigits false rest).map fun found => (value :: found.1, found.2)
      | none =>
          if c = '_' then if pending then none else readDigits true rest
          else if pending then none else some ([], c :: rest)

/-- The number with these digits. -/
def ofDigits (digits : List Nat) : Nat :=
  digits.foldl (fun acc digit => acc * 10 + digit) 0

/-- The sign at the front of a numeral, and what follows it. -/
def readSign : List Char → Bool × List Char
  | '-' :: rest => (true, rest)
  | '+' :: rest => (false, rest)
  | chars => (false, chars)

/-- The integer that a text spells. -/
def integer (text : String) : Except NumeralFault Int :=
  let (negative, chars) := readSign (text.toList.dropWhile isNumeralBlank)
  let begins := match chars with
    | '_' :: _ => false
    | _ => true
  match readDigits false chars with
  | some (digits, rest) =>
      if digits.isEmpty || !begins then .error .malformed
      else if maxDigits < digits.length then .error (.long digits.length)
      else if rest.all isNumeralBlank then
        let size : Int := ofDigits digits
        .ok (if negative then -size else size)
      else .error .malformed
  | none => .error .malformed

end PagedForm.Text
