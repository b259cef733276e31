import PagedForm.Binary64.Basic

/-!
# Decimal texts of binary64 numbers

A finite number is written with a string of significant digits and the place of the decimal
point. `shortest` gives the fewest digits that read back as the same number, and the nearest of
those; `rounded` gives a fixed count of digits. A `Layout` then decides between positional and
exponent notation. `shownLayout` keeps a fraction part on whole numbers and `generalLayout` does
not.
-/

namespace PagedForm.Binary64

/-- A positive decimal number `0.d₁d₂… * 10 ^ point`, where the digits are those of `digits`. -/
structure Decimal where
  digits : Nat
  point : Int
  deriving DecidableEq, Repr

/-- Where positional notation is used and whether whole numbers keep a fraction part. -/
structure Layout where
  lowestPoint : Int
  highestPoint : Int
  keepFraction : Bool

/-- The layout of a number that stands by itself: positional from `0.0001` to below `10 ^ 16`,
and always with a point or an exponent. -/
def shownLayout : Layout where
  lowestPoint := -3
  highestPoint := 16
  keepFraction := true

/-- The layout of a number with six significant digits: positional from `0.0001` to below
`10 ^ 6`, and without a point where none is needed. -/
def generalLayout : Layout where
  lowestPoint := -3
  highestPoint := 6
  keepFraction := false

/-- A number and its rounding interval in quarters of a unit of the last place: the number is
`4 * significand`, and the neighbours begin at `low` and `high`. -/
structure Interval where
  low : Nat
  middle : Nat
  high : Nat
  closed : Bool

/-- The rounding interval of a significand. Below a power of two the neighbour is only half as
far away, and the ends belong to the interval when the significand is even. -/
def intervalOf (significand : Nat) (exponent : Int) : Interval where
  low := 4 * significand -
    (if significand = twoTo 52 ∧ minExponent < exponent then 1 else 2)
  middle := 4 * significand
  high := 4 * significand + 2
  closed := significand % 2 == 0

/-- The factors `(a, b)` for which a quarter unit is `a / b` steps of the decimal grid
`10 ^ grid`. -/
def gridFactors (exponent grid : Int) : Nat × Nat :=
  (twoTo (exponent - 2).toNat * tenTo (-grid).toNat, twoTo (2 - exponent).toNat * tenTo grid.toNat)

/-- The place of the decimal point: the least `p` for which the number is below `10 ^ p`. -/
def pointOf (significand : Nat) (exponent : Int) : Int :=
  let factors := gridFactors exponent (-340)
  (decimalLength (4 * significand * factors.1 / factors.2) : Int) - 340

/-- The grid point `candidate` lies in the rounding interval. -/
def Interval.holds (interval : Interval) (factors : Nat × Nat) (candidate : Nat) : Bool :=
  let place := candidate * factors.2
  let low := interval.low * factors.1
  let high := interval.high * factors.1
  (low < place || interval.closed && low == place) &&
    (place < high || interval.closed && place == high)

/-- The grid point of the rounding interval that is nearest to the number, if the grid has one.
Only the two neighbours of the number have to be looked at. -/
def Interval.nearest? (interval : Interval) (factors : Nat × Nat) : Option Nat :=
  let middle := interval.middle * factors.1
  let below := middle / factors.2
  let above := below + 1
  match interval.holds factors below, interval.holds factors above with
  | true, true =>
      let down := middle - below * factors.2
      let up := above * factors.2 - middle
      if down < up then some below
      else if up < down then some above
      else if below % 2 = 0 then some below else some above
  | true, false => some below
  | false, true => some above
  | false, false => none

/-- Drop the zeros at the end of a number's digits. -/
def stripZeros : (fuel : Nat) → Nat → Nat
  | 0, n => n
  | fuel + 1, n => if n ≠ 0 ∧ n % 10 = 0 then stripZeros fuel (n / 10) else n

/-- A decimal number from a count of grid steps: the point moves when the count has one digit
more than the grid was made for. -/
def Decimal.ofSteps (steps : Nat) (grid : Int) : Decimal where
  digits := stripZeros (decimalLength steps) steps
  point := decimalLength steps + grid

/-- The most digits that are needed for a number. -/
def longestDigits : Nat := 17

/-- The grid point of the rounding interval on the coarsest grid that has one, and the grid. Each
grid has one digit more than the one before. -/
def coarsest? (interval : Interval) (exponent point : Int) : Option (Nat × Int) :=
  (List.range longestDigits).findSome? fun count : Nat =>
    (interval.nearest? (gridFactors exponent (point - (count + 1)))).map fun steps =>
      (steps, point - (count + 1))

/-- The fewest digits that read back as the number, and the nearest of those. Seventeen digits
are always enough. -/
def shortest (significand : Nat) (exponent : Int) : Decimal :=
  let hit := coarsest? (intervalOf significand exponent) exponent (pointOf significand exponent)
  (hit.map fun found => .ofSteps found.1 found.2).getD (.ofSteps significand 0)

/-- The number rounded to `count` significant digits, a tie going to the even digit. -/
def rounded (count : Nat) (significand : Nat) (exponent : Int) : Decimal :=
  let grid := pointOf significand exponent - count
  let factors := gridFactors exponent grid
  .ofSteps (roundDiv (4 * significand * factors.1) factors.2) grid

/-- An exponent with its sign and at least two digits. -/
def exponentText (exponent : Int) : List Char :=
  let digits := Nat.toDigits 10 exponent.natAbs
  'e' :: (if exponent < 0 then '-' else '+') ::
    (if digits.length < 2 then '0' :: digits else digits)

/-- A positive decimal number in a layout. -/
def Decimal.write (layout : Layout) (decimal : Decimal) : List Char :=
  let digits := Nat.toDigits 10 decimal.digits
  let point := decimal.point
  if layout.lowestPoint ≤ point ∧ point ≤ layout.highestPoint then
    if point ≤ 0 then '0' :: '.' :: List.replicate (-point).toNat '0' ++ digits
    else if digits.length ≤ point.toNat then
      digits ++ List.replicate (point.toNat - digits.length) '0' ++
        (if layout.keepFraction then ['.', '0'] else [])
    else digits.take point.toNat ++ '.' :: digits.drop point.toNat
  else
    digits.take 1 ++ (if digits.length < 2 then [] else '.' :: digits.drop 1) ++
      exponentText (point - 1)

/-- The text of zero in a layout. -/
def zeroText (layout : Layout) : List Char :=
  if layout.keepFraction then ['0', '.', '0'] else ['0']

/-- A number written with the digits that `digitsOf` picks for a finite positive one. -/
def writeWith (layout : Layout) (digitsOf : Nat → Int → Decimal) : Binary64 → String
  | .nan => "nan"
  | .infinite negative => if negative then "-inf" else "inf"
  | .finite negative significand exponent =>
      let body :=
        if significand = 0 then zeroText layout
        else (digitsOf significand exponent).write layout
      String.ofList (if negative then '-' :: body else body)

/-- The text of a number that stands by itself. -/
def shown (x : Binary64) : String :=
  x.writeWith shownLayout shortest

/-- The text of a number with at most six significant digits. -/
def general (x : Binary64) : String :=
  x.writeWith generalLayout (rounded 6)

/-- The part of a number before its fraction, for a finite number. -/
def truncate? : Binary64 → Option Int
  | .finite negative significand exponent =>
      let magnitude : Nat :=
        if exponent < 0 then significand / twoTo (-exponent).toNat
        else significand * twoTo exponent.toNat
      some (if negative then -(magnitude : Int) else magnitude)
  | _ => none

end PagedForm.Binary64
