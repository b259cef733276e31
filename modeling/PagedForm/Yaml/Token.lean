import PagedForm.Yaml.Scalar

/-!
# YAML tokens

A YAML text is a sequence of scalars and marks. Indentation is turned into tokens that open and
close blocks. A key on one line is known only by the colon after it, so the place where a key could
begin is kept, and its tokens are put there when the colon is met.
-/

namespace PagedForm.Yaml

/-- A token. The end of the text has none; a text that cannot be read any further is broken off. -/
inductive Token where
  | documentStart
  | documentEnd
  | blockSequence
  | blockMapping
  | blockEnd
  | flowSequence
  | flowSequenceEnd
  | flowMapping
  | flowMappingEnd
  | flowEntry
  | blockEntry
  | key
  | value
  | scalar (text : String) (plain : Bool)
  | broken (cause : Failure)
  deriving DecidableEq, Repr

/-- A place where a key could begin: how many tokens stand before it, and whether a key has to
begin there. -/
structure KeyPlace where
  tokensBefore : Nat
  required : Bool
  index : Nat
  line : Nat
  column : Nat

/-- The state of a scan. The tokens are in reverse. `depth` counts the open brackets, and each depth
has at most one place for a key. -/
structure Scan where
  cursor : Cursor
  tokens : List Token
  count : Nat
  depth : Nat
  indent : Int
  indents : List Int
  allowsKey : Bool
  places : List (Nat × KeyPlace)

namespace Scan

/-- The state before the first token. -/
def start (chars : List Char) : Scan :=
  ⟨.start chars, [], 0, 0, -1, [], true, []⟩

/-- Add a token at the end. -/
def push (scan : Scan) (token : Token) : Scan :=
  { scan with tokens := token :: scan.tokens, count := scan.count + 1 }

/-- Add a token after a number of others. -/
def insert (scan : Scan) (before : Nat) (token : Token) : Scan :=
  { scan with
    tokens := scan.tokens.insertIdx (scan.count - before) token
    count := scan.count + 1 }

/-- Add a token for a number of characters here. -/
def pushMark (scan : Scan) (token : Token) (length : Nat) : Scan :=
  { scan.push token with cursor := scan.cursor.skip length }

/-- The scan inside brackets. -/
def inFlow (scan : Scan) : Bool :=
  0 < scan.depth

/-- The place for a key at the current depth. -/
def place? (scan : Scan) : Option KeyPlace :=
  (scan.places.find? fun entry => entry.1 = scan.depth).map Prod.snd

/-- Forget the place for a key at the current depth, unless a key has to begin there. -/
def dropPlace (scan : Scan) : Reading Scan :=
  match scan.place? with
  | some place =>
      if place.required then malformed
      else .ok { scan with places := scan.places.filter fun entry => entry.1 ≠ scan.depth }
  | none => .ok scan

/-- A key begins and ends on one line and within this many characters. -/
def longestKey : Nat := 1024

/-- The place is too far back for a key to have begun there. -/
def isStale (scan : Scan) (place : KeyPlace) : Bool :=
  place.line ≠ scan.cursor.line || longestKey < scan.cursor.index - place.index

/-- Forget the places that are too far back. -/
def dropStale (scan : Scan) : Reading Scan :=
  if scan.places.any fun entry => scan.isStale entry.2 && entry.2.required then malformed
  else .ok { scan with places := scan.places.filter fun entry => !scan.isStale entry.2 }

/-- A key could begin here. -/
def savePlace (scan : Scan) : Reading Scan :=
  if scan.allowsKey then do
    let required := !scan.inFlow && scan.indent = scan.cursor.column
    let scan ← scan.dropPlace
    let place : KeyPlace :=
      ⟨scan.count, required, scan.cursor.index, scan.cursor.line, scan.cursor.column⟩
    pure { scan with places := (scan.depth, place) :: scan.places }
  else .ok scan

/-- Close the blocks that are indented more than a column; `indents` holds the outer ones. -/
def unwindFrom (column : Int) (scan : Scan) : List Int → Scan
  | [] => { scan with indents := [] }
  | outer :: rest =>
      if column < scan.indent then
        unwindFrom column { scan.push .blockEnd with indent := outer } rest
      else { scan with indents := outer :: rest }

/-- Close the blocks that are indented more than a column. Inside brackets there are none. -/
def unwind (scan : Scan) (column : Int) : Scan :=
  if scan.inFlow then scan else unwindFrom column scan scan.indents

/-- Indent to a column, if it is further in. -/
def indentTo? (scan : Scan) (column : Nat) : Option Scan :=
  if scan.indent < column then
    some { scan with indents := scan.indent :: scan.indents, indent := column }
  else none

/-- Open a block here with a token, if it is further in. -/
def openBlock (scan : Scan) (token : Token) : Scan :=
  match scan.indentTo? scan.cursor.column with
  | some scan => scan.push token
  | none => scan

/-- Blanks, comments and empty lines are skipped. After a line break a key may begin, unless the
scan is inside brackets. -/
def skipToToken : (fuel : Nat) → Scan → Scan
  | 0, scan => scan
  | fuel + 1, scan =>
      let cursor := scan.cursor.skipWhile (· = ' ')
      let cursor :=
        if cursor.peek = some '#' then cursor.skipWhile fun c => !isBreak c else cursor
      match cursor.lineBreak with
      | some (_, after) =>
          skipToToken fuel { scan with
            cursor := after
            allowsKey := if scan.inFlow then scan.allowsKey else true }
      | none => { scan with cursor := cursor }

/-- A marker between documents. -/
def scanMarker (scan : Scan) (token : Token) : Reading Scan := do
  let scan ← (scan.unwind (-1)).dropPlace
  pure ({ scan with allowsKey := false }.pushMark token 3)

/-- An opening bracket. -/
def scanOpening (scan : Scan) (token : Token) : Reading Scan := do
  let scan ← scan.savePlace
  pure ({ scan with depth := scan.depth + 1, allowsKey := true }.pushMark token 1)

/-- A closing bracket. -/
def scanClosing (scan : Scan) (token : Token) : Reading Scan := do
  if !scan.inFlow then malformed
  else
    let scan ← scan.dropPlace
    pure ({ scan with depth := scan.depth - 1, allowsKey := false }.pushMark token 1)

/-- A comma between brackets. -/
def scanComma (scan : Scan) : Reading Scan := do
  let scan ← { scan with allowsKey := true }.dropPlace
  pure (scan.pushMark .flowEntry 1)

/-- The dash of an item. -/
def scanDash (scan : Scan) : Reading Scan := do
  if !scan.inFlow && !scan.allowsKey then malformed
  else
    let scan := if scan.inFlow then scan else scan.openBlock .blockSequence
    let scan ← { scan with allowsKey := true }.dropPlace
    pure (scan.pushMark .blockEntry 1)

/-- The question mark of a key. -/
def scanQuestion (scan : Scan) : Reading Scan := do
  if !scan.inFlow && !scan.allowsKey then malformed
  else
    let scan := if scan.inFlow then scan else scan.openBlock .blockMapping
    let scan ← { scan with allowsKey := !scan.inFlow }.dropPlace
    pure (scan.pushMark .key 1)

/-- The colon after a key that began at a place. -/
def scanColonAfter (scan : Scan) (place : KeyPlace) : Scan :=
  let scan := { scan with places := scan.places.filter fun entry => entry.1 ≠ scan.depth }
  let scan := scan.insert place.tokensBefore .key
  let scan :=
    if scan.inFlow then scan
    else
      match scan.indentTo? place.column with
      | some scan => scan.insert place.tokensBefore .blockMapping
      | none => scan
  { scan with allowsKey := false }.pushMark .value 1

/-- The colon of a value. -/
def scanColon (scan : Scan) : Reading Scan :=
  match scan.place? with
  | some place => .ok (scan.scanColonAfter place)
  | none => do
      if !scan.inFlow && !scan.allowsKey then malformed
      else
        let scan := if scan.inFlow then scan else scan.openBlock .blockMapping
        let scan ← { scan with allowsKey := !scan.inFlow }.dropPlace
        pure (scan.pushMark .value 1)

/-- Add a scalar that ends at a cursor. -/
def pushScalar (scan : Scan) (text : List Char) (plain : Bool) (cursor : Cursor) : Scan :=
  { scan.push (.scalar (String.ofList text) plain) with cursor := cursor }

/-- A block of lines. -/
def scanBlock (scan : Scan) (folded : Bool) : Reading Scan := do
  let scan ← { scan with allowsKey := true }.dropPlace
  let (text, cursor) ← readBlock folded scan.indent scan.cursor.next
  pure (scan.pushScalar text false cursor)

/-- A scalar in quotes. -/
def scanQuoted (scan : Scan) (double : Bool) : Reading Scan := do
  let scan ← scan.savePlace
  let inside := scan.cursor.next
  let (text, cursor) ← readQuoted double (inside.left + 1) inside
  pure ({ scan with allowsKey := false }.pushScalar text false cursor)

/-- A plain scalar. -/
def scanPlain (scan : Scan) : Reading Scan := do
  let scan ← scan.savePlace
  let (text, cursor, broken) :=
    readPlain scan.inFlow (scan.indent + 1) (scan.cursor.left + 1) [] false scan.cursor
  pure ({ scan with allowsKey := broken }.pushScalar text true cursor)

/-- The characters that do not begin a plain scalar, or only together with the next one. -/
def marks : List Char :=
  ['-', '?', ':', ',', '[', ']', '\x7b', '\x7d', '#', '&', '*', '!', '|', '>', '\'', '"', '%',
   '@', '\x60']

/-- A plain scalar begins here. -/
def beginsPlain (scan : Scan) (c : Char) : Bool :=
  !(isSpace c || marks.contains c) ||
    (!endsToken (scan.cursor.peekAt 1) &&
      (c = '-' || (!scan.inFlow && (c = '?' || c = ':'))))

/-- The marker here, if there is one at the start of a line. -/
def marker? (scan : Scan) (c : Char) : Option Token :=
  if scan.cursor.column = 0 && scan.cursor.atMarker then
    some (if c = '-' then .documentStart else .documentEnd)
  else none

/-- The token that begins with this character. -/
def scanToken (scan : Scan) (c : Char) : Reading Scan :=
  let spaced := endsToken (scan.cursor.peekAt 1)
  match scan.marker? c with
  | some token => scan.scanMarker token
  | none =>
      if c = '[' then scan.scanOpening .flowSequence
      else if c = '\x7b' then scan.scanOpening .flowMapping
      else if c = ']' then scan.scanClosing .flowSequenceEnd
      else if c = '\x7d' then scan.scanClosing .flowMappingEnd
      else if c = ',' then scan.scanComma
      else if c = '-' && spaced then scan.scanDash
      else if c = '?' && (scan.inFlow || spaced) then scan.scanQuestion
      else if c = ':' && (scan.inFlow || spaced) then scan.scanColon
      else if c = '|' && !scan.inFlow then scan.scanBlock false
      else if c = '>' && !scan.inFlow then scan.scanBlock true
      else if c = '\'' then scan.scanQuoted false
      else if c = '"' then scan.scanQuoted true
      else if scan.beginsPlain c then scan.scanPlain
      else malformed

/-- The scan after the token that comes next, or nothing at the end of the text. -/
def step (scan : Scan) : Reading (Option Scan) := do
  let scan ← (scan.skipToToken (scan.cursor.left + 1)).dropStale
  let scan := scan.unwind scan.cursor.column
  match scan.cursor.peek with
  | none => pure none
  | some c => (scan.scanToken c).map some

/-- The scan after the last token. -/
def finish (scan : Scan) : Reading Scan := do
  let scan ← (scan.skipToToken (scan.cursor.left + 1)).dropStale
  (scan.unwind (-1)).dropPlace

/-- The tokens of a text that cannot be read from here on, in reverse. Those after a place where a
key could begin are still waiting for it and do not count. -/
def breakOff (scan : Scan) (cause : Failure) : List Token :=
  let places := scan.places.filter fun entry => !scan.isStale entry.2
  let ready := places.foldl (fun least entry => min least entry.2.tokensBefore) scan.count
  .broken cause :: scan.tokens.drop (scan.count - ready)

/-- The tokens from here on, in reverse. Every token takes a character. -/
def run : (fuel : Nat) → Scan → List Token
  | 0, scan => scan.breakOff .malformed
  | fuel + 1, scan =>
      match scan.step with
      | .error cause => scan.breakOff cause
      | .ok (some next) => run fuel next
      | .ok none =>
          match scan.finish with
          | .error cause => scan.breakOff cause
          | .ok last => last.tokens

end Scan

/-- A text without its byte order mark. -/
def dropByteOrderMark (chars : List Char) : List Char :=
  match chars with
  | c :: rest => if c.toNat = 0xFEFF then rest else chars
  | [] => []

/-- The tokens of a text. -/
def Token.scan (text : String) : List Token :=
  let chars := text.toList
  if chars.all isAllowed then
    (Scan.run (chars.length + 2) (.start (dropByteOrderMark chars))).reverse
  else [.broken .malformed]

end PagedForm.Yaml
