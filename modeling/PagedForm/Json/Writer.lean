import PagedForm.Value.Display

/-!
# Writing JSON

A value is written in ASCII only: every other character becomes one or two escaped UTF-16 units.
A `Style` says whether each entry stands on a line of its own. Keys that are not texts are written
as the text of their value, and numbers that JSON does not have as bare words.
-/

namespace PagedForm.Json

/-- How a value is laid out: on one line, or with each entry on its own line and this many
blanks more at each depth. -/
inductive Style where
  | oneLine
  | indented (blanks : Nat)

/-- An escaped UTF-16 unit. -/
def escapedUnit (unit : Nat) : List Char :=
  '\\' :: 'u' :: Text.hexDigits 4 unit

/-- The escape of a code: one unit, or the two of a pair. -/
def escapeCode (code : Nat) : List Char :=
  if code < 0x10000 then escapedUnit code
  else
    escapedUnit (0xD800 + (code - 0x10000) / 0x400) ++
      escapedUnit (0xDC00 + (code - 0x10000) % 0x400)

/-- The text begins with the escape of a low half. -/
def beginsLow (chars : List Char) : Bool :=
  match chars with
  | '\\' :: 'u' :: 'd' :: c :: _ => 'c' ≤ c && c ≤ 'f'
  | _ => false

/-- One character of a JSON string before the rest of the string. A half that would make a pair with
the rest is written as its stand-in. -/
def putChar (c : Char) (rest : List Char) : List Char :=
  let written : List Char :=
    if c = '"' then ['\\', '"']
    else if c = '\\' then ['\\', '\\']
    else if c = '\n' then ['\\', 'n']
    else if c = '\r' then ['\\', 'r']
    else if c = '\t' then ['\\', 't']
    else if c.toNat = 8 then ['\\', 'b']
    else if c.toNat = 12 then ['\\', 'f']
    else if 0x20 ≤ c.toNat ∧ c.toNat < 0x7F then [c]
    else if Text.isHighHalf (Text.codeOf c) && beginsLow rest then escapeCode c.toNat
    else escapeCode (Text.codeOf c)
  written ++ rest

/-- A JSON string. -/
def quote (s : String) : List Char :=
  '"' :: s.toList.foldr putChar ['"']

/-- A binary64 number in JSON. -/
def floatText : Binary64 → String
  | .nan => "NaN"
  | .infinite negative => if negative then "-Infinity" else "Infinity"
  | x => x.shown

/-- The text of an atom that is not a text. -/
def atomText : Atom → String
  | .null => "null"
  | .bool b => if b then "true" else "false"
  | .int n => toString n
  | .float x => floatText x
  | .text s => s

/-- A value without parts. -/
def writeAtom : Atom → List Char
  | .text s => quote s
  | a => (atomText a).toList

/-- The break before an entry at a depth. -/
def lineBreak (style : Style) (depth : Nat) : List Char :=
  match style with
  | .oneLine => []
  | .indented blanks => '\n' :: List.replicate (blanks * depth) ' '

/-- Entries between their brackets, each after a break. -/
def enclose (style : Style) (depth : Nat) (opening closing : Char) (parts : List (List Char)) :
    List Char :=
  match parts with
  | [] => [opening, closing]
  | first :: rest =>
      let inner := lineBreak style (depth + 1)
      let comma : List Char := match style with
        | .oneLine => [',', ' ']
        | .indented _ => [',']
      opening :: inner ++ first ++ rest.flatMap (fun part => comma ++ inner ++ part) ++
        lineBreak style depth ++ [closing]

mutual

/-- A value at a depth. -/
def writeAt (style : Style) (depth : Nat) : Value → List Char
  | .atom a => writeAtom a
  | .list items => enclose style depth '[' ']' (writeItems style (depth + 1) items)
  | .record entries => enclose style depth '\x7b' '\x7d' (writeEntries style (depth + 1) entries)
  | .file name size type url =>
      enclose style depth '\x7b' '\x7d'
        [quote "name" ++ ": ".toList ++ writeAt style (depth + 1) name,
         quote "size" ++ ": ".toList ++ writeAt style (depth + 1) size,
         quote "type" ++ ": ".toList ++ writeAt style (depth + 1) type,
         quote "url" ++ ": ".toList ++ writeAt style (depth + 1) url]

/-- The items of a list at a depth. -/
def writeItems (style : Style) (depth : Nat) : List Value → List (List Char)
  | [] => []
  | v :: rest => writeAt style depth v :: writeItems style depth rest

/-- The entries of a record at a depth. -/
def writeEntries (style : Style) (depth : Nat) : List (Atom × Value) → List (List Char)
  | [] => []
  | (k, v) :: rest =>
      (quote (atomText k) ++ ": ".toList ++ writeAt style depth v) ::
        writeEntries style depth rest

end

/-- A value as JSON text. -/
def write (style : Style) (value : Value) : String :=
  String.ofList (writeAt style 0 value)

/-- A value as a JSON document: two blanks for each depth. -/
def document (value : Value) : String :=
  write (.indented 2) value

end PagedForm.Json
