import PagedForm.Binary64.Basic
import PagedForm.Text.Numeral
import PagedForm.Text.Surrogate
import PagedForm.Value.Compare

/-!
# Reading JSON

A JSON text is read as one value. A number without a fraction and an exponent is an integer of
any size; the bare words for numbers that JSON does not have are read too. When a key is repeated
the last entry counts, in the place of the first. Control characters must be escaped inside
strings, and nothing but blanks may follow the value.
-/

namespace PagedForm.Json

/-- Why a text was not read. -/
inductive Failure where
  | malformed
  | longNumeral (digits : Nat)
  deriving DecidableEq, Repr

/-- The text after its leading blanks. -/
def skipBlanks (chars : List Char) : List Char :=
  chars.dropWhile fun c => c = ' ' || c = '\t' || c = '\n' || c = '\r'

/-- The value of a hexadecimal digit. -/
def hexValue? (c : Char) : Option Nat :=
  if '0' ≤ c ∧ c ≤ '9' then some (c.toNat - 48)
  else if 'a' ≤ c ∧ c ≤ 'f' then some (c.toNat - 87)
  else if 'A' ≤ c ∧ c ≤ 'F' then some (c.toNat - 55)
  else none

/-- The unit that four hexadecimal digits spell. -/
def unitOf? (a b c d : Char) : Option Nat := do
  let a ← hexValue? a
  let b ← hexValue? b
  let c ← hexValue? c
  let d ← hexValue? d
  pure (((a * 16 + b) * 16 + c) * 16 + d)

/-- The character of two halves. -/
def joinHalves (high low : Nat) : Char :=
  Char.ofNat (0x10000 + (high - 0xD800) * 0x400 + (low - 0xDC00))

/-- The characters read, in reverse, with the stand-in of a half that was left alone. -/
def withHalf (half : Option Nat) (acc : List Char) : List Char :=
  match half with
  | some high => Text.charOf high :: acc
  | none => acc

/-- The characters read, in reverse, with an escaped unit after them. A half that may begin a pair
is kept apart until the next character is known. -/
def putUnit (half : Option Nat) (acc : List Char) (unit : Nat) : Option Nat × List Char :=
  if Text.isHighHalf unit then (some unit, withHalf half acc)
  else
    match half with
    | some high =>
        if Text.isLowHalf unit then (none, joinHalves high unit :: acc)
        else (none, Text.charOf unit :: withHalf half acc)
    | none => (none, Text.charOf unit :: acc)

/-- The character after a backslash when it is a short escape. -/
def shortEscape? : Char → Option Char
  | '"' => some '"'
  | '\\' => some '\\'
  | '/' => some '/'
  | 'b' => some '\x08'
  | 'f' => some '\x0c'
  | 'n' => some '\n'
  | 'r' => some '\r'
  | 't' => some '\t'
  | _ => none

/-- The rest of a string after its opening quote; `acc` holds what was read, in reverse, and `half`
the half of a pair just before. -/
def readString (half : Option Nat) (acc : List Char) :
    List Char → Except Failure (String × List Char)
  | [] => .error .malformed
  | '"' :: rest => .ok (String.ofList (withHalf half acc).reverse, rest)
  | '\\' :: 'u' :: a :: b :: c :: d :: rest =>
      match unitOf? a b c d with
      | some unit =>
          let (half, acc) := putUnit half acc unit
          readString half acc rest
      | none => .error .malformed
  | '\\' :: c :: rest =>
      match shortEscape? c with
      | some e => readString none (e :: withHalf half acc) rest
      | none => .error .malformed
  | c :: rest =>
      if c.toNat < 0x20 || c = '\\' then .error .malformed
      else readString none (c :: withHalf half acc) rest

/-- An ASCII digit. -/
def isDigit (c : Char) : Bool :=
  '0' ≤ c && c ≤ '9'

/-- The number that ASCII digits spell. -/
def digitsValue (digits : List Char) : Nat :=
  digits.foldl (fun acc c => acc * 10 + (c.toNat - 48)) 0

/-- Split off the leading digits. -/
def spanDigits (chars : List Char) : List Char × List Char :=
  (chars.takeWhile isDigit, chars.dropWhile isDigit)

/-- The digits of a whole part: a zero alone, or digits that begin with another one. -/
def readWhole : List Char → Option (List Char × List Char)
  | '0' :: rest => some (['0'], rest)
  | chars =>
      match spanDigits chars with
      | ([], _) => none
      | split => some split

/-- The digits of a fraction, when a point is followed by some. -/
def readFraction (chars : List Char) : Option (List Char × List Char) :=
  match chars with
  | '.' :: rest =>
      match spanDigits rest with
      | ([], _) => none
      | split => some split
  | _ => none

/-- The value of an exponent, when its letter is followed by one. -/
def readExponent (chars : List Char) : Option (Int × List Char) :=
  match chars with
  | c :: rest =>
      if c = 'e' || c = 'E' then
        let (negative, digits) : Bool × List Char := match rest with
          | '-' :: more => (true, more)
          | '+' :: more => (false, more)
          | _ => (false, rest)
        match spanDigits digits with
        | ([], _) => none
        | (found, after) =>
            let size : Int := digitsValue found
            some (if negative then -size else size, after)
      else none
  | [] => none

/-- A number. Without a fraction and an exponent it is an integer. -/
def readNumber (chars : List Char) : Except Failure (Value × List Char) :=
  let (negative, unsigned) : Bool × List Char := match chars with
    | '-' :: rest => (true, rest)
    | _ => (false, chars)
  match readWhole unsigned with
  | none => .error .malformed
  | some (whole, rest) =>
      let fraction := readFraction rest
      let afterFraction := (fraction.map Prod.snd).getD rest
      let exponent := readExponent afterFraction
      let after := (exponent.map Prod.snd).getD afterFraction
      if fraction.isNone && exponent.isNone then
        if Text.maxDigits < whole.length then .error (.longNumeral whole.length)
        else
          let size : Int := digitsValue whole
          .ok (.int (if negative then -size else size), after)
      else
        let decimals := (fraction.map Prod.fst).getD []
        let power := (exponent.map Prod.fst).getD 0
        .ok (.float (.ofDecimal negative (digitsValue (whole ++ decimals))
          (power - decimals.length)), after)

/-- The text without a front part, when it begins with that part. -/
def dropWord : List Char → List Char → Option (List Char)
  | [], chars => some chars
  | w :: ws, c :: cs => if w = c then dropWord ws cs else none
  | _ :: _, [] => none

/-- The bare words and their values. -/
def bareWords : List (String × Value) :=
  [("null", .null), ("true", .bool true), ("false", .bool false), ("NaN", .float .nan),
   ("Infinity", .float (.infinite false)), ("-Infinity", .float (.infinite true))]

/-- A bare word, else a number. -/
def readScalar (chars : List Char) : Except Failure (Value × List Char) :=
  let word := bareWords.findSome? fun entry =>
    (dropWord entry.1.toList chars).map fun rest => (entry.2, rest)
  match word with
  | some found => .ok found
  | none => readNumber chars

mutual

/-- A value at the front of a text without leading blanks. -/
def readValue : (fuel : Nat) → List Char → Except Failure (Value × List Char)
  | 0, _ => .error .malformed
  | fuel + 1, chars =>
      match chars with
      | [] => .error .malformed
      | '"' :: rest => do
          let (s, after) ← readString none [] rest
          pure (.text s, after)
      | '[' :: rest =>
          match skipBlanks rest with
          | ']' :: after => .ok (.list [], after)
          | start => readItems fuel [] start
      | '\x7b' :: rest =>
          match skipBlanks rest with
          | '\x7d' :: after => .ok (.record [], after)
          | start => readEntries fuel [] start
      | _ => readScalar chars

/-- The items of a list that is not closed yet; `acc` holds those before, in reverse. -/
def readItems :
    (fuel : Nat) → (acc : List Value) → List Char → Except Failure (Value × List Char)
  | 0, _, _ => .error .malformed
  | fuel + 1, acc, chars => do
      let (v, after) ← readValue fuel chars
      match skipBlanks after with
      | ',' :: rest => readItems fuel (v :: acc) (skipBlanks rest)
      | ']' :: rest => pure (.list (v :: acc).reverse, rest)
      | _ => throw .malformed

/-- The entries of a record that is not closed yet; `acc` holds those before. -/
def readEntries :
    (fuel : Nat) → (acc : List (Atom × Value)) → List Char →
      Except Failure (Value × List Char)
  | 0, _, _ => .error .malformed
  | fuel + 1, acc, chars => do
      match chars with
      | '"' :: rest => do
          let (key, afterKey) ← readString none [] rest
          match skipBlanks afterKey with
          | ':' :: beforeValue => do
              let (v, after) ← readValue fuel (skipBlanks beforeValue)
              let acc := Value.put (.text key) v acc
              match skipBlanks after with
              | ',' :: more => readEntries fuel acc (skipBlanks more)
              | '\x7d' :: more => pure (.record acc, more)
              | _ => throw .malformed
          | _ => throw .malformed
      | _ => throw .malformed

end

/-- The value of a JSON text. -/
def read (text : String) : Except Failure Value := do
  let chars := text.toList
  let (v, after) ← readValue (chars.length + 1) (skipBlanks chars)
  match skipBlanks after with
  | [] => pure v
  | _ => throw .malformed

end PagedForm.Json
