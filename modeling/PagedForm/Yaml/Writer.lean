import PagedForm.Value.Display
import PagedForm.Yaml.Plain

/-!
# Writing YAML

A value is written in block style: entries on lines of their own, items after dashes. A text is
plain when it would be read back as the same text, in single quotes when it only has to be kept
from looking like something else, and in double quotes when it holds characters that need escapes.
Long texts are broken at blanks.
-/

namespace PagedForm.Yaml

/-- A text being written: what was written so far, in reverse, and where the writer stands. The
line is `fresh` while it holds only indentation and marks that count as indentation. -/
structure Sheet where
  written : List Char
  column : Nat
  afterBlank : Bool
  fresh : Bool

namespace Sheet

/-- Lines are broken after this column. -/
def width : Nat := 80

/-- Nothing written. -/
def blank : Sheet := ⟨[], 0, true, true⟩

/-- Write characters of one line. -/
def put (sheet : Sheet) (chars : List Char) : Sheet :=
  { sheet with
    written := chars.reverse ++ sheet.written
    column := sheet.column + chars.length }

/-- Write characters that are part of a scalar. -/
def putText (sheet : Sheet) (chars : List Char) : Sheet :=
  { sheet.put chars with afterBlank := false, fresh := false }

/-- Begin a new line. -/
def newLine (sheet : Sheet) : Sheet :=
  ⟨'\n' :: sheet.written, 0, true, true⟩

/-- Go to a column, on a new line unless the current one is fresh and not past it. -/
def indentTo (sheet : Sheet) (indent : Nat) : Sheet :=
  let sheet :=
    if !sheet.fresh || indent < sheet.column || (sheet.column = indent && !sheet.afterBlank) then
      sheet.newLine
    else sheet
  if sheet.column < indent then
    { sheet.put (List.replicate (indent - sheet.column) ' ') with afterBlank := true }
  else sheet

/-- Write a mark, after a blank unless there is one or none is needed. Marks that count as
indentation keep the line fresh. -/
def mark (sheet : Sheet) (chars : List Char) (needsBlank leavesBlank indents : Bool) : Sheet :=
  let sheet' := sheet.put (if sheet.afterBlank || !needsBlank then chars else ' ' :: chars)
  { sheet' with afterBlank := leavesBlank, fresh := sheet.fresh && indents }

end Sheet

/-! ## Scalars -/

/-- How a scalar is written. -/
inductive ScalarStyle where
  | plain
  | single
  | double
  deriving DecidableEq, Repr

/-- The characters that cannot begin a plain scalar. -/
def leadingMarks : List Char :=
  ['#', ',', '[', ']', '\x7b', '\x7d', '&', '*', '!', '|', '>', '\'', '"', '%', '@', '\x60']

/-- A blank, a line break or nothing follows. -/
def endsWord (next : Option Char) : Bool :=
  match next with
  | none => true
  | some c => c = ' ' || c = '\n' || c = '\t' || c = '\r'

/-- The characters begin with a mark of the block style. -/
def beginsWithMark : List Char → Bool
  | [] => false
  | c :: rest =>
      leadingMarks.contains c || ((c = '?' || c = ':' || c = '-') && endsWord rest.head?) ||
        "---".toList.isPrefixOf (c :: rest) || "...".toList.isPrefixOf (c :: rest)

/-- Inside the characters stands a mark: a colon at the end of a word, or a number sign at the
start of one. -/
def holdsMark : List Char → Bool
  | [] => false
  | [_] => false
  | c :: d :: rest =>
      (d = ':' && endsWord rest.head?) || (d = '#' && endsWord (some c)) || holdsMark (d :: rest)

/-- A character that needs an escape. -/
def isSpecial (c : Char) : Bool :=
  !(c = '\n' || (' ' ≤ c && c ≤ '~'))

/-- Somewhere the first character is followed by the second. -/
def hasPair (first second : Char) : List Char → Bool
  | c :: d :: rest => (c = first && d = second) || hasPair first second (d :: rest)
  | _ => false

/-- The character is a blank or a line break. -/
def isSpaceOrBreak (c : Option Char) : Bool :=
  c = some ' ' || c = some '\n'

/-- A text can be written as a plain scalar without being read as something else than a
scalar. -/
def allowsPlain (chars : List Char) : Bool :=
  !(isSpaceOrBreak chars.head? || isSpaceOrBreak chars.getLast? || chars.contains '\n' ||
    chars.any isSpecial || beginsWithMark chars || holdsMark chars)

/-- A text can be written between single quotes. -/
def allowsSingle (chars : List Char) : Bool :=
  !(chars.any isSpecial || hasPair ' ' '\n' chars || hasPair '\n' ' ' chars)

/-- The character separates lines. -/
def isLineSeparator (c : Char) : Bool :=
  c = '\n' || c.toNat = 0x85 || c.toNat = 0x2028 || c.toNat = 0x2029

/-- A text can stand before a colon on one line. -/
def isShortKey (tagLength : Nat) (chars : List Char) : Bool :=
  !chars.isEmpty && !chars.any isLineSeparator && tagLength + chars.length < 128

/-- How a text is written. -/
def styleOf (s : String) (asKey : Bool) : ScalarStyle :=
  let chars := s.toList
  if looksLikeText s && allowsPlain chars then .plain
  else if allowsSingle chars && !(asKey && chars.contains '\n') then .single
  else .double

/-- The longest runs of characters that agree on a test. -/
def runs (test : Char → Bool) : List Char → List (List Char)
  | [] => []
  | c :: rest =>
      match runs test rest with
      | (d :: run) :: others =>
          if test c = test d then (c :: d :: run) :: others else [c] :: (d :: run) :: others
      | others => [c] :: others

/-- The line may be broken at a run of blanks: it is one blank, and the line is full. -/
def breaksAt (sheet : Sheet) (split : Bool) (run : List Char) : Bool :=
  split && run = [' '] && Sheet.width < sheet.column

/-- The runs of a plain scalar. -/
def putPlainRuns (indent : Nat) (split : Bool) (sheet : Sheet) : List (List Char) → Sheet
  | [] => sheet
  | run :: rest =>
      let sheet' :=
        if breaksAt sheet split run then
          { sheet.indentTo indent with afterBlank := false, fresh := false }
        else sheet.putText run
      putPlainRuns indent split sheet' rest

/-- A plain scalar. -/
def putPlain (indent : Nat) (split : Bool) (sheet : Sheet) (chars : List Char) : Sheet :=
  let sheet := if sheet.afterBlank then sheet else sheet.put [' ']
  putPlainRuns indent split { sheet with afterBlank := false, fresh := false }
    (runs (· = ' ') chars)

/-- A blank, a line break, or another character. -/
def spaceClass (c : Char) : Nat :=
  if c = ' ' then 0 else if c = '\n' then 1 else 2

/-- The longest runs of blanks, of line breaks and of other characters. -/
def spaceRuns : List Char → List (List Char)
  | [] => []
  | c :: rest =>
      match spaceRuns rest with
      | (d :: run) :: others =>
          if spaceClass c = spaceClass d then (c :: d :: run) :: others
          else [c] :: (d :: run) :: others
      | others => [c] :: others

/-- One run of a scalar in single quotes. Line breaks are written once more than they occur, and
quotes twice. -/
def putSingleRun (indent : Nat) (split inside : Bool) (sheet : Sheet) (run : List Char) : Sheet :=
  match run.head? with
  | some ' ' =>
      if inside && breaksAt sheet split run then sheet.indentTo indent else sheet.put run
  | some '\n' => ((run.foldl (fun s _ => s.newLine) sheet.newLine)).indentTo indent
  | _ => sheet.put (run.flatMap fun c => if c = '\'' then ['\'', '\''] else [c])

/-- The runs of a scalar in single quotes; `first` says that none was written. -/
def putSingleRuns (indent : Nat) (split first : Bool) (sheet : Sheet) :
    List (List Char) → Sheet
  | [] => sheet
  | run :: rest =>
      putSingleRuns indent split false
        (putSingleRun indent split (!first && !rest.isEmpty) sheet run) rest

/-- A scalar in single quotes. -/
def putSingle (indent : Nat) (split : Bool) (sheet : Sheet) (chars : List Char) : Sheet :=
  (putSingleRuns indent split true (sheet.mark ['\''] true false false) (spaceRuns chars)).mark
    ['\''] false false false

/-- The letter of a short escape. -/
def escapeLetter? (c : Char) : Option Char :=
  match c.toNat with
  | 0x00 => some '0'
  | 0x07 => some 'a'
  | 0x08 => some 'b'
  | 0x09 => some 't'
  | 0x0A => some 'n'
  | 0x0B => some 'v'
  | 0x0C => some 'f'
  | 0x0D => some 'r'
  | 0x1B => some 'e'
  | 0x22 => some '"'
  | 0x5C => some '\\'
  | 0x85 => some 'N'
  | 0xA0 => some '_'
  | 0x2028 => some 'L'
  | 0x2029 => some 'P'
  | _ => none

/-- Hexadecimal digits in upper case. -/
def upperHex (width n : Nat) : List Char :=
  (Text.hexDigits width n).map Char.toUpper

/-- The escape of a character. -/
def escapeOf (c : Char) : List Char :=
  match escapeLetter? c with
  | some letter => ['\\', letter]
  | none =>
      let code := Text.codeOf c
      if code ≤ 0xFF then '\\' :: 'x' :: upperHex 2 code
      else if code ≤ 0xFFFF then '\\' :: 'u' :: upperHex 4 code
      else '\\' :: 'U' :: upperHex 8 code

/-- A character is escaped between double quotes. -/
def needsEscape (c : Char) : Bool :=
  c = '"' || c = '\\' || !(' ' ≤ c && c ≤ '~')

/-- Break a line inside a scalar in double quotes. A blank that would begin the next line is kept
by a backslash. -/
def breakDouble (indent : Nat) (sheet : Sheet) (next : Option Char) : Sheet :=
  let sheet := (sheet.put ['\\']).indentTo indent
  let sheet := { sheet with afterBlank := false, fresh := false }
  if next = some ' ' then sheet.put ['\\'] else sheet

/-- The characters of a scalar in double quotes; `pending` holds those that stand for themselves
and are not written yet. A full line is broken at a blank or at an escape, but not at the ends. -/
def putDoubleChars (indent : Nat) (split : Bool) :
    (first : Bool) → (pending : List Char) → Sheet → List Char → Sheet
  | _, pending, sheet, [] => sheet.put pending
  | first, pending, sheet, c :: rest =>
      let escaped := needsEscape c
      let sheet := if escaped then (sheet.put pending).put (escapeOf c) else sheet
      let pending := if escaped then [] else pending
      let full := Sheet.width + (if escaped then 1 else 0) < sheet.column + pending.length
      if split && !first && !rest.isEmpty && (c = ' ' || escaped || pending.isEmpty) && full then
        let sheet := breakDouble indent (sheet.put pending) (if escaped then rest.head? else some c)
        putDoubleChars indent split false (if escaped then [] else [c]) sheet rest
      else
        putDoubleChars indent split false (if escaped then [] else pending ++ [c]) sheet rest

/-- A scalar in double quotes. -/
def putDouble (indent : Nat) (split : Bool) (sheet : Sheet) (chars : List Char) : Sheet :=
  (putDoubleChars indent split true [] (sheet.mark ['"'] true false false) chars).mark
    ['"'] false false false

/-- A text; as a key it is not broken. -/
def putString (indent : Nat) (asKey : Bool) (sheet : Sheet) (s : String) : Sheet :=
  match styleOf s asKey with
  | .plain => putPlain indent (!asKey) sheet s.toList
  | .single => putSingle indent (!asKey) sheet s.toList
  | .double => putDouble indent (!asKey) sheet s.toList

/-- A point in a number with an exponent: without one it would be read as a text. -/
def pointBeforeExponent (chars : List Char) : List Char :=
  if chars.contains '.' then chars
  else chars.flatMap fun c => if c = 'e' then ['.', '0', 'e'] else [c]

/-- The text of an atom that is not a text. -/
def atomText : Atom → List Char
  | .null => "null".toList
  | .bool b => (if b then "true" else "false").toList
  | .int n => (toString n).toList
  | .float .nan => ".nan".toList
  | .float (.infinite negative) => (if negative then "-.inf" else ".inf").toList
  | .float x => pointBeforeExponent x.shown.toList
  | .text s => s.toList

/-- A value without parts. -/
def putAtom (indent : Nat) (asKey : Bool) (sheet : Sheet) : Atom → Sheet
  | .text s => putString indent asKey sheet s
  | a => putPlain indent (!asKey) sheet (atomText a)

/-- The length of the tag that a key of this type is counted with. -/
def tagLength : Atom → Nat
  | .null | .bool _ => 6
  | .int _ | .text _ => 5
  | .float _ => 7

/-! ## Collections -/

/-- The indentation of what is inside a collection at another one; at the top there is none. -/
def innerIndent (outer : Option Nat) : Nat :=
  match outer with
  | none => 0
  | some n => n + 2

/-- The indentation of the further lines of a scalar. -/
def scalarIndent (outer : Option Nat) : Nat :=
  match outer with
  | none => 2
  | some n => n + 2

/-- A collection without entries. -/
def putEmpty (sheet : Sheet) (opening closing : Char) : Sheet :=
  (sheet.mark [opening] true true false).mark [closing] false false false

/-- A key with the colon after it. A key that is long, empty or of several lines is announced by
a question mark, and its colon begins a line. -/
def putKey (indent : Nat) (sheet : Sheet) (key : Atom) : Sheet :=
  let sheet := sheet.indentTo indent
  if isShortKey (tagLength key) (atomText key) then
    (putAtom (indent + 2) true sheet key).mark [':'] false false false
  else
    let sheet := putAtom (indent + 2) false (sheet.mark ['?'] true false true) key
    (sheet.indentTo indent).mark [':'] true false true

mutual

/-- A value inside a collection at an indentation. Items of a list stand at the indentation of the
key that they follow. -/
def putValue (outer : Option Nat) (afterKey : Bool) (sheet : Sheet) : Value → Sheet
  | .atom a => putAtom (scalarIndent outer) false sheet a
  | .list [] => putEmpty sheet '[' ']'
  | .list (v :: rest) =>
      let indent := if afterKey && !sheet.fresh then outer.getD 0 else innerIndent outer
      putItems indent sheet (v :: rest)
  | .record [] => putEmpty sheet '\x7b' '\x7d'
  | .record (entry :: rest) => putEntries (innerIndent outer) sheet (entry :: rest)
  | .file name size type url =>
      let indent := innerIndent outer
      let sheet := putValue (some indent) true (putKey indent sheet (.text "name")) name
      let sheet := putValue (some indent) true (putKey indent sheet (.text "size")) size
      let sheet := putValue (some indent) true (putKey indent sheet (.text "type")) type
      putValue (some indent) true (putKey indent sheet (.text "url")) url

/-- The items of a list, each after a dash. -/
def putItems (indent : Nat) (sheet : Sheet) : List Value → Sheet
  | [] => sheet
  | v :: rest =>
      let dashed := (sheet.indentTo indent).mark ['-'] true false true
      putItems indent (putValue (some indent) false dashed v) rest

/-- The entries of a record, each on its own line. -/
def putEntries (indent : Nat) (sheet : Sheet) : List (Atom × Value) → Sheet
  | [] => sheet
  | (k, v) :: rest =>
      putEntries indent (putValue (some indent) true (putKey indent sheet k) v) rest

end

/-- A value as a YAML document. -/
def write (value : Value) : String :=
  let sheet := (putValue none false .blank value).indentTo 0
  String.ofList sheet.written.reverse

end PagedForm.Yaml
