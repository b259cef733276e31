import PagedForm.Moment.Basic
import PagedForm.Json.Reader

/-!
# Reading moments

A moment is a date, and a time of day after any one character. The date is given by month and day
or by week and weekday, the time by hours, minutes, seconds and a fraction, each with or without
separators; what is left out at the end is zero. The time ends where a sign or a `Z` begins the
distance from the universal clock. One stray character is passed over before such a sign, and so is
anything after six digits of a fraction.
-/

namespace PagedForm.Moment

/-- The number that exactly this many digits at the front spell, and what follows them. -/
def readDigits (count : Nat) (chars : List Char) : Option (Nat × List Char) :=
  let digits := chars.take count
  if digits.length = count && digits.all Json.isDigit then
    some (Json.digitsValue digits, chars.drop count)
  else none

/-- What follows the hyphen, when hyphens are in use. -/
def dropHyphen (hyphens : Bool) (chars : List Char) : Option (List Char) :=
  match hyphens, chars with
  | false, _ => some chars
  | true, '-' :: rest => some rest
  | true, _ => none

/-! ## Dates -/

/-- Where the time begins after a week without hyphens. Numbers of a time come in pairs of digits,
so the count of digits tells whether a weekday is given. -/
def weekLength (chars : List Char) : Nat :=
  let last := 7 + ((chars.drop 7).takeWhile Json.isDigit).length
  if last < 9 then last else if last % 2 = 0 then 7 else 8

/-- How many characters the date at the front of a text takes. -/
def dateLength (chars : List Char) : Nat :=
  if chars.length = 7 then 7
  else if chars[4]? = some '-' then
    if chars[5]? = some 'W' then
      if chars[8]? = some '-' && !(chars[10]?.any Json.isDigit) then 10 else 8
    else 10
  else if chars[4]? = some 'W' then weekLength chars
  else 8

/-- A date in no month, which stands for the weeks of a year zero. -/
def noDate : Nat × Nat × Nat := (1, 0, 0)

/-- The date of a week and a weekday, which is Monday when none is given. -/
def readWeek (hyphens : Bool) (year : Nat) (chars : List Char) :
    Except MomentFault (Nat × Nat × Nat) :=
  match readDigits 2 chars with
  | none => .error .malformed
  | some (week, rest) =>
      let day := if rest.isEmpty then some 1
        else ((dropHyphen hyphens rest).bind (readDigits 1)).map Prod.fst
      match day with
      | none => .error .malformed
      | some day =>
          let longest := if hasLongYear year then 53 else 52
          if week = 0 || longest < week || day = 0 || 7 < day then .error .malformed
          else if year = 0 then .ok noDate
          else .ok (dateOfWeek year week day)

/-- The date of a month and a day. -/
def readMonth (hyphens : Bool) (year : Nat) (chars : List Char) :
    Except MomentFault (Nat × Nat × Nat) :=
  match readDigits 2 chars with
  | none => .error .malformed
  | some (month, rest) =>
      match (dropHyphen hyphens rest).bind (readDigits 2) with
      | none => .error .malformed
      | some (day, _) => .ok (year, month, day)

/-- A date as it is written. -/
def readDate (chars : List Char) : Except MomentFault (Nat × Nat × Nat) :=
  match readDigits 4 chars with
  | none => .error .malformed
  | some (year, rest) =>
      let hyphens := rest.head? = some '-'
      match (if hyphens then rest.drop 1 else rest) with
      | 'W' :: week => readWeek hyphens year week
      | rest => readMonth hyphens year rest

/-! ## Times -/

/-- A time of day as it is written, and whether nothing stands after it. -/
structure Clock where
  hour : Nat
  minute : Nat
  second : Nat
  micro : Nat
  clean : Bool
  deriving DecidableEq, Repr

/-- The microseconds of a fraction, and whether only digits follow its first six, up to the end or
a null character. -/
def readFraction (chars : List Char) : Option (Nat × Bool) :=
  let count := min 6 chars.length
  (readDigits count chars).map fun (value, rest) =>
    let clean := match rest.dropWhile Json.isDigit with
      | [] => true
      | c :: _ => c = '\x00'
    (value * tenTo (6 - count), clean)

/-- What follows a number of a time. -/
inductive Following where
  | nothing
  | stray
  | number (rest : List Char)
  | fraction (rest : List Char)

/-- What follows a number of a time. Numbers are separated by colons all or not at all; after the
last number a fraction needs no mark. A null character at the very end is nothing. -/
def following (colons last : Bool) (chars : List Char) : Option Following :=
  let next (rest : List Char) : Following := if last then .fraction rest else .number rest
  match chars with
  | [] => some .nothing
  | c :: rest =>
      if rest.isEmpty && c = '\x00' then some .nothing
      else if rest.isEmpty && c.toNat < 128 then some .stray
      else if colons && c = ':' then some (next rest)
      else if c = '.' || c = ',' then some (.fraction rest)
      else if colons then none
      else some (next (c :: rest))

/-- The numbers of a time after those in `found`, as the clock that they make. -/
def readNumbers (colons : Bool) : (left : Nat) → (found : List Nat) → List Char → Option Clock
  | 0, _, _ => none
  | left + 1, found, chars =>
      match readDigits 2 chars with
      | none => none
      | some (value, rest) =>
          let found := found ++ [value]
          let clock (micro : Nat) (clean : Bool) : Clock :=
            ⟨found.getD 0 0, found.getD 1 0, found.getD 2 0, micro, clean⟩
          match following colons (left = 0) rest with
          | none => none
          | some .nothing => some (clock 0 true)
          | some .stray => some (clock 0 false)
          | some (.fraction rest) => (readFraction rest).map fun (micro, clean) => clock micro clean
          | some (.number rest) => readNumbers colons left found rest

/-- A time of day. -/
def readClock (chars : List Char) : Option Clock :=
  readNumbers (chars[2]? = some ':') 3 [] chars

/-- The microseconds of a day. -/
def microsPerDay : Int := 86400 * microsPerSecond

/-- The distance from the universal clock after its sign. A distance of no whole second is none. -/
def readOffset (behind : Bool) (chars : List Char) : Except MomentFault Int :=
  match readClock chars with
  | some ⟨hour, minute, second, micro, true⟩ =>
      let seconds := hour * 3600 + minute * 60 + second
      let size : Int := if seconds = 0 then 0 else seconds * microsPerSecond + micro
      if microsPerDay ≤ size then .error (.offset (if behind then -size else size))
      else .ok (if behind then -size else size)
  | _ => .error .malformed

/-- The character begins a distance from the universal clock. -/
def beginsZone (c : Char) : Bool :=
  c = '+' || c = '-' || c = 'Z'

/-- A time of day with its distance from the universal clock. -/
def readTime (chars : List Char) : Except MomentFault (Clock × Option Int) :=
  match readClock (chars.takeWhile fun c => !beginsZone c) with
  | none => .error .malformed
  | some clock =>
      match chars.dropWhile fun c => !beginsZone c with
      | [] => if clock.clean then .ok (clock, none) else .error .malformed
      | sign :: rest =>
          if sign = 'Z' then
            if rest.isEmpty then .ok (clock, some 0) else .error .malformed
          else (readOffset (sign = '-') rest).map fun offset => (clock, some offset)

/-- The moment of a date and a time, when there is such a date and such a time. -/
def make (date : Nat × Nat × Nat) (clock : Clock) (offset : Option Int) :
    Except MomentFault Moment :=
  let (year, month, day) := date
  if year < 1 || 9999 < year then .error (.year year)
  else if month < 1 || 12 < month then .error .month
  else if day < 1 || daysIn year month < day then .error .day
  else if 23 < clock.hour then .error .hour
  else if 59 < clock.minute then .error .minute
  else if 59 < clock.second then .error .second
  else .ok ⟨year, month, day, clock.hour, clock.minute, clock.second, clock.micro, offset⟩

/-- The moment that a text gives. -/
def readChars (chars : List Char) : Except MomentFault Moment := do
  let size := dateLength chars
  let date ← readDate (chars.take size)
  match chars.drop size with
  | [] => make date ⟨0, 0, 0, 0, true⟩ none
  | _ :: rest => do
      let (clock, offset) ← readTime rest
      make date clock offset

/-- The moment that a text gives. -/
def read (text : String) : Result Moment :=
  match readChars text.toList with
  | .ok moment => .ok moment
  | .error cause => .error (.moment text cause)

end PagedForm.Moment
