import PagedForm.Json.Reader
import PagedForm.Value.Basic

/-!
# Plain YAML scalars

A scalar without quotes is a text unless it looks like something else: nothing, a truth value, a
number, a date, or one of two marks. `plainKind` says which. A writer must put a text in quotes
whenever its kind is another one.
-/

namespace PagedForm.Yaml

/-- What a plain scalar looks like. -/
inductive PlainKind where
  | text
  | null
  | bool (b : Bool)
  | int
  | float
  | date
  | merge
  | equals
  deriving DecidableEq, Repr

/-- The words for nothing. -/
def nullWords : List String := ["", "~", "null", "Null", "NULL"]

/-- The words for true. -/
def trueWords : List String := ["yes", "Yes", "YES", "true", "True", "TRUE", "on", "On", "ON"]

/-- The words for false. -/
def falseWords : List String :=
  ["no", "No", "NO", "false", "False", "FALSE", "off", "Off", "OFF"]

/-- A digit or an underscore. -/
def isDigitOrBar (c : Char) : Bool :=
  c.isDigit || c = '_'

/-- The characters after an optional sign. -/
def dropSign : List Char → List Char
  | '-' :: rest => rest
  | '+' :: rest => rest
  | chars => chars

/-- Digits and underscores after a digit. -/
def isDigits : List Char → Bool
  | [] => false
  | c :: rest => c.isDigit && rest.all isDigitOrBar

/-- Digits and underscores after a digit other than zero. -/
def isPositive : List Char → Bool
  | [] => false
  | c :: rest => c.isDigit && c ≠ '0' && rest.all isDigitOrBar

/-- A decimal integer without its sign. -/
def isDecimal (chars : List Char) : Bool :=
  chars = ['0'] || isPositive chars

/-- A hexadecimal digit or an underscore. -/
def isHexOrBar (c : Char) : Bool :=
  (Json.hexValue? c).isSome || c = '_'

/-- An integer in base two, eight or sixteen without its sign. -/
def isBased : List Char → Bool
  | '0' :: 'b' :: digits => !digits.isEmpty && digits.all fun c => c = '0' || c = '1' || c = '_'
  | '0' :: 'x' :: digits => !digits.isEmpty && digits.all isHexOrBar
  | '0' :: digits => !digits.isEmpty && digits.all fun c => ('0' ≤ c ∧ c ≤ '7') || c = '_'
  | _ => false

/-- The pieces of a text between its colons. -/
def splitColons : List Char → List (List Char)
  | [] => [[]]
  | c :: rest =>
      if c = ':' then [] :: splitColons rest
      else
        match splitColons rest with
        | piece :: pieces => (c :: piece) :: pieces
        | [] => [[c]]

/-- One or two digits below sixty. -/
def isSixtieth : List Char → Bool
  | [d] => d.isDigit
  | [t, d] => '0' ≤ t && t ≤ '5' && d.isDigit
  | _ => false

/-- A number in base sixty, given a test of its first piece. -/
def isSexagesimal (first : List Char → Bool) (chars : List Char) : Bool :=
  match splitColons chars with
  | start :: next :: rest => first start && (next :: rest).all isSixtieth
  | _ => false

/-- An exponent: a letter, a sign and digits. -/
def isExponent : List Char → Bool
  | e :: sign :: digits =>
      (e = 'e' || e = 'E') && (sign = '-' || sign = '+') && !digits.isEmpty &&
        digits.all Char.isDigit
  | _ => false

/-- What follows the point of a decimal number. -/
def isFraction (chars : List Char) : Bool :=
  match chars.dropWhile isDigitOrBar with
  | [] => true
  | rest => isExponent rest

/-- A decimal number with a point. -/
def isPointed (chars : List Char) : Bool :=
  match (dropSign chars).span (· ≠ '.') with
  | (whole, '.' :: fraction) => isDigits whole && isFraction fraction
  | _ => false

/-- A decimal number that begins with its point. -/
def isBarePointed : List Char → Bool
  | '.' :: d :: rest => d.isDigit && isFraction rest
  | _ => false

/-- A number in base sixty with a point. -/
def isPointedSexagesimal (chars : List Char) : Bool :=
  match (dropSign chars).span (· ≠ '.') with
  | (whole, '.' :: fraction) => isSexagesimal isDigits whole && fraction.all isDigitOrBar
  | _ => false

/-- The words for infinity. -/
def infinityWords : List (List Char) :=
  [".inf".toList, ".Inf".toList, ".INF".toList]

/-- The words for what is not a number. -/
def nanWords : List (List Char) :=
  [".nan".toList, ".NaN".toList, ".NAN".toList]

/-- Between `least` and `most` digits at the front, and what follows them. -/
def digitsUpTo (least most : Nat) (chars : List Char) : Option (List Char) :=
  let found := (chars.take most).takeWhile Char.isDigit
  if least ≤ found.length then some (chars.drop found.length) else none

/-- What follows a character at the front. -/
def after (c : Char) : List Char → Option (List Char)
  | [] => none
  | d :: rest => if d = c then some rest else none

/-- A zone at the end of a time. -/
def isZone (chars : List Char) : Bool :=
  match chars with
  | [] => true
  | ['Z'] => true
  | sign :: rest =>
      (sign = '-' || sign = '+') &&
        match digitsUpTo 1 2 rest with
        | some [] => true
        | some (':' :: minutes) => digitsUpTo 2 2 minutes == some []
        | _ => false

/-- A time of day with an optional fraction and zone. -/
def isTime (chars : List Char) : Bool :=
  let rest := do
    let rest ← digitsUpTo 1 2 chars
    let rest ← after ':' rest
    let rest ← digitsUpTo 2 2 rest
    let rest ← after ':' rest
    digitsUpTo 2 2 rest
  match rest with
  | none => false
  | some rest =>
      let rest := match rest with
        | '.' :: fraction => fraction.dropWhile Char.isDigit
        | _ => rest
      match rest.dropWhile fun c => c = ' ' || c = '\t' with
      | [] => rest.isEmpty
      | zone => isZone zone

/-- A date, or a date with a time of day. -/
def isDate (chars : List Char) : Bool :=
  let dated (least : Nat) : Option (List Char) := do
    let rest ← digitsUpTo 4 4 chars
    let rest ← after '-' rest
    let rest ← digitsUpTo least 2 rest
    let rest ← after '-' rest
    digitsUpTo least 2 rest
  dated 2 == some [] ||
    match dated 1 with
    | some (c :: rest) =>
        if c = 'T' || c = 't' then isTime rest
        else
          (c = ' ' || c = '\t') && isTime (rest.dropWhile fun d => d = ' ' || d = '\t')
    | _ => false

/-- What a plain scalar looks like. -/
def plainKind (s : String) : PlainKind :=
  let chars := s.toList
  if nullWords.contains s then .null
  else if trueWords.contains s then .bool true
  else if falseWords.contains s then .bool false
  else if isDecimal (dropSign chars) || isBased (dropSign chars) ||
      isSexagesimal isPositive (dropSign chars) then .int
  else if isPointed chars || isBarePointed chars || isPointedSexagesimal chars ||
      infinityWords.contains (dropSign chars) || nanWords.contains chars then .float
  else if isDate chars then .date
  else if s = "<<" then .merge
  else if s = "=" then .equals
  else .text

/-- A text that can be written as a plain scalar looks like a text. -/
def looksLikeText (s : String) : Bool :=
  plainKind s = .text

end PagedForm.Yaml
