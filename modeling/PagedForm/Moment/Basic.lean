import PagedForm.Fault

/-!
# Moments

A date with a time of day and, if it is known, the distance of the local clock from the universal
one. A moment is written in the extended form of ISO 8601, with a fraction of six digits unless it
is a whole second.
-/

namespace PagedForm

/-- A moment; `offset` counts the microseconds by which the local clock is ahead. -/
structure Moment where
  year : Nat
  month : Nat
  day : Nat
  hour : Nat
  minute : Nat
  second : Nat
  micro : Nat
  offset : Option Int
  deriving DecidableEq, Repr

namespace Moment

/-- The microseconds of a second. -/
def microsPerSecond : Nat := 1000000

/-- A number with at least this many digits. -/
def padded (width n : Nat) : String :=
  let digits := toString n
  String.ofList (List.replicate (width - digits.length) '0') ++ digits

/-- A fraction of a second, if there is one. -/
def renderFraction (micro : Nat) : String :=
  if micro = 0 then "" else "." ++ padded 6 micro

/-- A distance from the universal clock; seconds are written only when there are some. -/
def renderOffset (offset : Int) : String :=
  let micro := offset.natAbs % microsPerSecond
  let size := offset.natAbs / microsPerSecond
  let seconds := if size % 60 = 0 ∧ micro = 0 then "" else ":" ++ padded 2 (size % 60)
  (if offset < 0 then "-" else "+") ++ padded 2 (size / 3600) ++ ":" ++
    padded 2 (size / 60 % 60) ++ seconds ++ renderFraction micro

/-- The text of a moment. -/
def render (m : Moment) : String :=
  padded 4 m.year ++ "-" ++ padded 2 m.month ++ "-" ++ padded 2 m.day ++ "T" ++
    padded 2 m.hour ++ ":" ++ padded 2 m.minute ++ ":" ++ padded 2 m.second ++
    renderFraction m.micro ++ (m.offset.map renderOffset).getD ""

/-! ## The calendar -/

/-- A year with a leap day. -/
def isLeap (year : Nat) : Bool :=
  year % 4 = 0 && (year % 100 != 0 || year % 400 = 0)

/-- The days of a month. -/
def daysIn (year month : Nat) : Nat :=
  match month with
  | 2 => if isLeap year then 29 else 28
  | 4 | 6 | 9 | 11 => 30
  | _ => 31

/-- The days of a year. -/
def daysOf (year : Nat) : Nat :=
  if isLeap year then 366 else 365

/-- The weekday on which a year begins, with Monday as the day zero. -/
def firstWeekday (year : Nat) : Nat :=
  let past := year - 1
  (past * 365 + past / 4 - past / 100 + past / 400) % 7

/-- A year has a week 53 when it begins on a Thursday, or on a Wednesday with a leap day. -/
def hasLongYear (year : Nat) : Bool :=
  firstWeekday year = 3 || (firstWeekday year = 2 && isLeap year)

/-- The month and the day of the month, when these months are left and this many days of them have
passed. -/
def monthAndDay (year : Nat) : (months : List Nat) → (passed : Nat) → Nat × Nat
  | [], passed => (12, passed + 1)
  | month :: rest, passed =>
      if passed < daysIn year month then (month, passed + 1)
      else monthAndDay year rest (passed - daysIn year month)

/-- The months of a year. -/
def months : List Nat := [1, 2, 3, 4, 5, 6, 7, 8, 9, 10, 11, 12]

/-- The number of a day, counted from the first day of the year one. -/
def dayNumber (year month day : Nat) : Nat :=
  let past := year - 1
  let days := past * 365 + past / 4 - past / 100 + past / 400
  (months.take (month - 1)).foldl (fun days month => days + daysIn year month) days + day

/-- The microseconds up to a moment, by the universal clock if its distance from that is known. -/
def instant (m : Moment) : Int :=
  let minutes := (dayNumber m.year m.month m.day * 24 + m.hour) * 60 + m.minute
  ((minutes * 60 + m.second) * microsPerSecond + m.micro : Nat) - m.offset.getD 0

/-- The date of a day of a week. The first week of a year is the one that holds its first Thursday,
so it may begin in the year before, and the last one may end in the year after. -/
def dateOfWeek (year week day : Nat) : Nat × Nat × Nat :=
  let begins := firstWeekday year
  let days := (week - 1) * 7 + (day - 1) + (if 3 < begins then 7 else 0)
  if days < begins then
    (year - 1, monthAndDay (year - 1) months (daysOf (year - 1) + days - begins))
  else
    let passed := days - begins
    if passed < daysOf year then (year, monthAndDay year months passed)
    else (year + 1, monthAndDay (year + 1) months (passed - daysOf year))

end Moment

end PagedForm
