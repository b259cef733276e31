import PagedForm.Fault
import PagedForm.Moment.Basic
import PagedForm.Text.LineEnd

/-!
# YAML documents

What a reader of YAML makes of a file, as far as it matters here: an empty document, a record, or
anything else. The reader is a parameter of whatever is done with documents, and so is what it takes
for a file and for a value. Only the keys of a record are looked at. They are scalars of every type
that a reader knows, which are more than there are atoms.
-/

namespace PagedForm.Yaml

/-! ## Scalars -/

/-- A scalar: an atom, a date, a moment, or some bytes. -/
inductive Scalar where
  | atom (a : Atom)
  | date (year month day : Nat)
  | moment (m : Moment)
  | bytes (content : List UInt8)
  deriving DecidableEq, Repr

namespace Scalar

/-- Two scalars are equal. Moments are equal when they are at once, and no moment whose distance
from the universal clock is known equals one of which it is not. -/
def same : Scalar → Scalar → Bool
  | .atom a, .atom b => a.same b
  | .date year month day, .date year' month' day' => year = year' && month = month' && day = day'
  | .moment m, .moment n => m.offset.isSome = n.offset.isSome && m.instant = n.instant
  | .bytes content, .bytes other => content = other
  | _, _ => false

/-- Two keys of a record are alike: they are equal, or neither is a number. -/
def alike : Scalar → Scalar → Bool
  | .atom a, .atom b => a.alike b
  | scalar, other => scalar.same other

/-- A scalar lies below another; `none` when the two cannot be ordered. Only scalars of one type
can be, and no moment whose distance from the universal clock is known with one of which it is
not. -/
def below? : Scalar → Scalar → Option Bool
  | .atom a, .atom b => Value.atomAbove? b a
  | .date year month day, .date year' month' day' =>
      some (Moment.dayNumber year month day < Moment.dayNumber year' month' day')
  | .moment m, .moment n =>
      if m.offset.isSome = n.offset.isSome then some (m.instant < n.instant) else none
  | .bytes content, .bytes other => some (content < other)
  | _, _ => none

/-- One of some bytes as it is shown. -/
def showByte (quote : Char) (byte : UInt8) : List Char :=
  if byte < 0x80 then Text.inspectChar quote (Char.ofNat byte.toNat)
  else Text.escapeCode byte.toNat

/-- The shown text of some bytes. -/
def showBytes (content : List UInt8) : String :=
  let quote := Text.chooseQuote (content.map fun byte => Char.ofNat byte.toNat)
  String.ofList ('b' :: quote :: content.flatMap (showByte quote) ++ [quote])

/-- The shown text of a scalar. A moment is shown with a blank before its time of day. -/
def shown : Scalar → String
  | .atom a => a.shown
  | .date year month day =>
      Moment.padded 4 year ++ "-" ++ Moment.padded 2 month ++ "-" ++ Moment.padded 2 day
  | .moment m => m.render.map fun c => if c = 'T' then ' ' else c
  | .bytes content => showBytes content

/-- The atom of a scalar. What is none becomes its text. -/
def toAtom : Scalar → Atom
  | .atom a => a
  | scalar => .text scalar.shown

end Scalar

/-! ## Documents -/

/-- What a file holds for a reader whose values are of some type. -/
inductive Document (α : Type) where
  | empty
  | record (entries : List (Scalar × α))
  | other
  deriving Repr

namespace Document

variable {α β : Type}

/-- The entries of a document that is a record. -/
def record? : Document α → Option (List (Scalar × α))
  | .record entries => some entries
  | _ => none

/-- A document with its values changed. -/
def map (change : α → β) : Document α → Document β
  | .empty => .empty
  | .record entries => .record (entries.map fun entry => (entry.1, change entry.2))
  | .other => .other

end Document

/-- The value under a name in a record. -/
def find? {α : Type} (name : String) : List (Scalar × α) → Option α
  | [] => none
  | (key, v) :: rest => if key = .atom (.text name) then some v else find? name rest

/-- No two keys of a record are equal. -/
def HasDistinctKeys {α : Type} (entries : List (Scalar × α)) : Prop :=
  (entries.map Prod.fst).Pairwise fun first second => first.same second = false

/-! ## Readers -/

/-- Why a file was not read. -/
inductive Failure where
  /-- The file does not hold YAML. -/
  | malformed
  /-- An integer has more digits than are read. -/
  | longNumeral (digits : Nat)
  /-- An escape gives a number that is the code of no character. -/
  | noCharacter
  /-- An escape gives a number that takes more than 31 bits. -/
  | farCode
  /-- The reader gave up for another reason, a date that does not exist for instance. -/
  | other (message : String)
  deriving DecidableEq, Repr

/-- The fault of a file that was not read; `notYaml` is the one of a file that does not hold
YAML. -/
def Failure.fault (notYaml : Fault) : Failure → Fault
  | .malformed => notYaml
  | .longNumeral digits => .value (.longNumeral digits)
  | .noCharacter => .value .noCharacter
  | .farCode => .value .overflow
  | .other message => .value (.unread message)

/-- The result of reading a file or a piece of it. -/
abbrev Reading (α : Type) := Except Failure α

/-- A reader: what it makes of the content of a file. -/
abbrev Reader (κ α : Type) := κ → Reading (Document α)

/-- A reader of texts as a reader of files that hold them, whatever ends their lines. -/
def Reader.fromFile {α : Type} (reader : Reader String α) : Reader String α := fun content =>
  reader (Text.unifyLineEnds content)

/-- No two keys of a record that is read are equal. -/
def Reader.HasDistinctKeys {κ α : Type} (reader : Reader κ α) : Prop :=
  ∀ content entries, reader content = .ok (.record entries) → Yaml.HasDistinctKeys entries

end PagedForm.Yaml
