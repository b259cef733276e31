import PagedForm.Json.Reader

/-!
# Places in a YAML text

A cursor is the rest of a text with the place where it begins. The module also names the classes of
characters that the syntax of YAML turns on; the end of the text belongs to most of them.
-/

namespace PagedForm.Yaml

/-- The rest of a text with its place: the counts of characters from here on and before here, and
the line and the column. -/
structure Cursor where
  rest : List Char
  left : Nat
  index : Nat
  line : Nat
  column : Nat

/-- The character breaks a line. -/
def isBreak (c : Char) : Bool :=
  c = '\n' || c = '\r' || c.toNat = 0x85 || c.toNat = 0x2028 || c.toNat = 0x2029

/-- The character is a blank, a tab or a line break. -/
def isSpace (c : Char) : Bool :=
  c = ' ' || c = '\t' || isBreak c

/-- A blank, a tab, a line break or the end of the text. -/
def endsToken (c : Option Char) : Bool :=
  match c with
  | none => true
  | some c => isSpace c

/-- A line break or the end of the text. -/
def endsLine (c : Option Char) : Bool :=
  match c with
  | none => true
  | some c => isBreak c

/-- The character may occur in a YAML text. -/
def isAllowed (c : Char) : Bool :=
  let n := c.toNat
  n = 0x09 || n = 0x0A || n = 0x0D || (0x20 ≤ n && n ≤ 0x7E) || n = 0x85 ||
    (0xA0 ≤ n && n ≤ 0xD7FF) || (0xE000 ≤ n && n ≤ 0xFFFD) || 0x10000 ≤ n

namespace Cursor

/-- The start of a text. -/
def start (chars : List Char) : Cursor :=
  ⟨chars, chars.length, 0, 0, 0⟩

/-- The character here. -/
def peek (cursor : Cursor) : Option Char :=
  cursor.rest.head?

/-- The character a number of places further. -/
def peekAt (cursor : Cursor) (offset : Nat) : Option Char :=
  cursor.rest[offset]?

/-- One place further. A carriage return before a line feed does not end the line by itself, and a
byte order mark takes no column. -/
def next (cursor : Cursor) : Cursor :=
  match cursor.rest with
  | [] => cursor
  | c :: rest =>
      let ends := isBreak c && !(c = '\r' && rest.head? = some '\n')
      let here : Cursor := { cursor with
        rest := rest
        left := cursor.left - 1
        index := cursor.index + 1 }
      if ends then { here with line := cursor.line + 1, column := 0 }
      else if c.toNat = 0xFEFF then here
      else { here with column := cursor.column + 1 }

/-- A number of places further. -/
def skip (cursor : Cursor) : Nat → Cursor
  | 0 => cursor
  | count + 1 => cursor.next.skip count

/-- The characters at the front that pass a test. -/
def taken (cursor : Cursor) (test : Char → Bool) : List Char :=
  cursor.rest.takeWhile test

/-- The cursor after the characters at the front that pass a test. -/
def skipWhile (cursor : Cursor) (test : Char → Bool) : Cursor :=
  cursor.skip (cursor.taken test).length

/-- The line break here, as the one character that stands for it, and the cursor after it. -/
def lineBreak (cursor : Cursor) : Option (Char × Cursor) :=
  match cursor.rest with
  | '\r' :: '\n' :: _ => some ('\n', cursor.skip 2)
  | c :: _ =>
      if c.toNat = 0x2028 || c.toNat = 0x2029 then some (c, cursor.next)
      else if isBreak c then some ('\n', cursor.next)
      else none
  | [] => none

/-- Three dashes or three points stand here as a word. -/
def atMarker (cursor : Cursor) : Bool :=
  let front := cursor.rest.take 3
  (front = ['-', '-', '-'] || front = ['.', '.', '.']) && endsToken (cursor.peekAt 3)

end Cursor

end PagedForm.Yaml
