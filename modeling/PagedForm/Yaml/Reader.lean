import PagedForm.Moment.Reader
import PagedForm.Yaml.Node
import PagedForm.Yaml.Plain

/-!
# Reading YAML

A reader of YAML without tags and anchors. Plain scalars become what they look like, and scalars in
quotes or blocks are texts. When a key is repeated the last entry counts, in the place of the first;
a key has to be a scalar. The entries under the key `<<` are merged in before the others.
-/

namespace PagedForm.Yaml

/-- What a node describes. -/
inductive Datum where
  | scalar (s : Scalar)
  | list (items : List Datum)
  | record (entries : List (Scalar × Datum))
  deriving Repr

/-! ## Numbers -/

/-- The number that decimal digits spell, which must not be too many. -/
def readDecimalDigits (digits : List Char) : Reading Nat :=
  if Text.maxDigits < digits.length then .error (.longNumeral digits.length)
  else .ok (Json.digitsValue digits)

/-- The number that the digits of another base spell. There has to be one, bars aside. -/
def readBasedDigits (base : Nat) (digits : List Char) : Reading Nat :=
  if digits.isEmpty then
    .error (.other ("invalid literal for int() with base " ++ toString base ++ ": " ++
      Text.inspect ""))
  else .ok (digits.foldl (fun acc c => acc * base + (Json.hexValue? c).getD 0) 0)

/-- The number that pieces in base sixty spell. -/
def ofSixtieths (pieces : List Nat) : Nat :=
  pieces.foldl (fun acc piece => acc * 60 + piece) 0

/-- The number that an integer without sign and bars spells. -/
def readSize : List Char → Reading Nat
  | '0' :: 'b' :: digits => readBasedDigits 2 digits
  | '0' :: 'x' :: digits => readBasedDigits 16 digits
  | '0' :: digits => if digits.isEmpty then .ok 0 else readBasedDigits 8 digits
  | digits => ((splitColons digits).mapM readDecimalDigits).map ofSixtieths

/-- The number that an integer spells. -/
def readInt (chars : List Char) : Reading Atom :=
  (readSize ((dropSign chars).filter (· ≠ '_'))).map fun size =>
    .int (if chars.head? = some '-' then -(size : Int) else size)

/-- The number that a text with a point spells. In base sixty it is rounded only once. -/
def readDecimal (negative : Bool) (chars : List Char) : Binary64 :=
  let (whole, rest) := (chars.filter (· ≠ '_')).span (· ≠ '.')
  let (fraction, tail) := (rest.drop 1).span Char.isDigit
  let exponent : Int := match tail with
    | _ :: '-' :: digits => -(Json.digitsValue digits : Int)
    | _ :: _ :: digits => Json.digitsValue digits
    | _ => 0
  let size := ofSixtieths ((splitColons whole).map Json.digitsValue)
  .ofDecimal negative (size * tenTo fraction.length + Json.digitsValue fraction)
    (exponent - fraction.length)

/-- The number that a plain scalar with a point spells. -/
def readFloat (chars : List Char) : Atom :=
  let negative := chars.head? = some '-'
  let unsigned := dropSign chars
  if infinityWords.contains unsigned then .float (.infinite negative)
  else if nanWords.contains unsigned then .float .nan
  else .float (readDecimal negative unsigned)

/-! ## Dates -/

/-- The number at the front, and what follows the character after it. -/
def numberAt (chars : List Char) : Nat × List Char :=
  let digits := chars.takeWhile Char.isDigit
  (Json.digitsValue digits, chars.drop (digits.length + 1))

/-- The microseconds by which the local clock of a zone is ahead, if there is a zone. -/
def readZone : List Char → Except MomentFault (Option Int)
  | [] => .ok none
  | sign :: rest =>
      let (hours, minutes) := numberAt rest
      let size := (hours * 60 + Json.digitsValue minutes) * 60 * Moment.microsPerSecond
      let offset : Int := if sign = '-' then -(size : Int) else size
      if Moment.microsPerDay ≤ size then .error (.offset offset) else .ok (some offset)

/-- The time of day with its zone. Only six digits of a fraction count. -/
def readClock (chars : List Char) : Except MomentFault (Moment.Clock × Option Int) :=
  let (hour, rest) := numberAt chars
  let (minute, rest) := numberAt rest
  let (seconds, rest) := rest.span Char.isDigit
  let (fraction, rest) := match rest with
    | '.' :: rest => rest.span Char.isDigit
    | _ => ([], rest)
  let micro := Json.digitsValue ((fraction ++ List.replicate 6 '0').take 6)
  (readZone (rest.dropWhile fun c => c = ' ' || c = '\t')).map fun offset =>
    (⟨hour, minute, Json.digitsValue seconds, micro, true⟩, offset)

/-- The date or the moment that a text of its shape gives, when there is such a date and such a
time. -/
def readDate (chars : List Char) : Except MomentFault Scalar := do
  let (year, rest) := numberAt chars
  let (month, rest) := numberAt rest
  let (day, time) := rest.span Char.isDigit
  let date := (year, month, Json.digitsValue day)
  if time.isEmpty then
    (Moment.make date ⟨0, 0, 0, 0, true⟩ none).map fun m => .date m.year m.month m.day
  else
    let (clock, offset) ← readClock (time.dropWhile fun c => !c.isDigit)
    (Moment.make date clock offset).map .moment

/-! ## Scalars -/

/-- What a scalar stands for. The two marks stand for nothing. -/
def readScalar (text : String) (plain : Bool) : Reading Scalar :=
  if !plain then .ok (.atom (.text text))
  else
    match plainKind text with
    | .null => .ok (.atom .null)
    | .bool b => .ok (.atom (.bool b))
    | .int => (readInt text.toList).map .atom
    | .float => .ok (.atom (readFloat text.toList))
    | .date =>
        match readDate text.toList with
        | .ok scalar => .ok scalar
        | .error cause => .error (.other (cause.message text))
    | .merge | .equals => .error .malformed
    | .text => .ok (.atom (.text text))

/-- A key, which has to be a scalar. An equals sign is a text here. -/
def readKey : Node → Reading Scalar
  | .scalar text plain =>
      if plain && text = "=" then .ok (.atom (.text text)) else readScalar text plain
  | _ => .error .malformed

/-! ## Records -/

/-- The node is the key whose entries are merged in. -/
def isMergeKey : Node → Bool
  | .scalar text plain => plain && text = "<<"
  | _ => false

/-- The entries with every key once: in the place where it comes first, with the value that it has
last. -/
def settle : List (Scalar × Datum) → List (Scalar × Datum)
  | [] => []
  | (key, datum) :: rest =>
      let others := settle rest
      let last := (others.find? fun entry => key.alike entry.1).map Prod.snd
      (key, last.getD datum) :: others.filter fun entry => !key.alike entry.1

/-- The entries of a record. -/
def entriesOf : Datum → Reading (List (Scalar × Datum))
  | .record entries => .ok entries
  | _ => .error .malformed

/-- The entries of a record that is merged in, or of the records of a list, of which the first
counts most. -/
def mergedEntries : Datum → Reading (List (Scalar × Datum))
  | .record entries => .ok entries
  | .list items => (items.mapM entriesOf).map fun found => found.reverse.flatten
  | .scalar _ => .error .malformed

mutual

/-- What a node describes. -/
def toDatum : Node → Reading Datum
  | .scalar text plain => (readScalar text plain).map .scalar
  | .sequence items => (toItems items).map .list
  | .mapping entries => do
      let (merged, own) ← toEntries entries
      pure (.record (settle (merged ++ own)))

/-- What the items of a list describe. -/
def toItems : List Node → Reading (List Datum)
  | [] => .ok []
  | node :: rest => do
      let datum ← toDatum node
      let others ← toItems rest
      pure (datum :: others)

/-- The entries of a record: those that are merged in, and its own. -/
def toEntries : List (Node × Node) → Reading (List (Scalar × Datum) × List (Scalar × Datum))
  | [] => .ok ([], [])
  | (key, node) :: rest => do
      if isMergeKey key then
        let datum ← toDatum node
        let merged ← mergedEntries datum
        let (others, own) ← toEntries rest
        pure (merged ++ others, own)
      else
        let scalar ← readKey key
        let datum ← toDatum node
        let (merged, own) ← toEntries rest
        pure (merged, (scalar, datum) :: own)

end

/-- What a YAML text describes; an empty text describes nothing. -/
def read (text : String) : Reading Datum := do
  match ← Node.ofTokens (Token.scan text) with
  | some node => toDatum node
  | none => pure (.scalar (.atom .null))

/-! ## Values -/

namespace Datum

mutual

/-- The value of a datum. A scalar that is no atom becomes its text. -/
def toValue : Datum → Value
  | .scalar s => .atom s.toAtom
  | .list items => .list (toValues items)
  | .record entries => .record (toFields entries)

/-- The values of a list's items. -/
def toValues : List Datum → List Value
  | [] => []
  | datum :: rest => toValue datum :: toValues rest

/-- The entries of a record with their values. -/
def toFields : List (Scalar × Datum) → List (Atom × Value)
  | [] => []
  | (key, datum) :: rest => (key.toAtom, toValue datum) :: toFields rest

end

/-- A datum as a document. -/
def toDocument : Datum → Document Datum
  | .scalar (.atom .null) => .empty
  | .record entries => .record entries
  | _ => .other

end Datum

/-- The reader of texts. -/
def reader : Reader String Value := fun text =>
  (read text).map fun datum => datum.toDocument.map Datum.toValue

end PagedForm.Yaml
