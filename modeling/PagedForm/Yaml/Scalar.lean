import PagedForm.Yaml.Cursor
import PagedForm.Yaml.Document

/-!
# YAML scalars

The texts of scalars as they are written: plain, between quotes, or in a block of lines. Line breaks
inside the first two are folded: one break is a blank, and more are one break less. A block keeps
its line breaks or folds them, as its mark says.
-/

namespace PagedForm.Yaml

/-- The fault of a text that is not YAML. -/
def malformed {α : Type} : Reading α := .error .malformed

/-- A folded line break: the breaks after it if there are some, else a blank. Separators that are
no line feeds are kept. -/
def fold (first : Char) (others : List Char) : List Char :=
  if first ≠ '\n' then first :: others
  else if others.isEmpty then [' ']
  else others

/-! ## Plain scalars -/

/-- The line breaks and blanks at the front, with the breaks among them; `none` when a line begins
with a marker. -/
def plainBreaks : (fuel : Nat) → Cursor → Option (List Char × Cursor)
  | 0, cursor => some ([], cursor)
  | fuel + 1, cursor =>
      if cursor.peek = some ' ' then plainBreaks fuel cursor.next
      else
        match cursor.lineBreak with
        | none => some ([], cursor)
        | some (c, after) =>
            if after.atMarker then none
            else (plainBreaks fuel after).map fun found => (c :: found.1, found.2)

/-- The space after a piece of a plain scalar: its folded text, the cursor after it, and whether a
line was broken. A marker ends the scalar and gives no text. -/
def plainSpace (cursor : Cursor) : List Char × Cursor × Bool :=
  let blanks := cursor.taken (· = ' ')
  let here := cursor.skipWhile (· = ' ')
  match here.lineBreak with
  | none => (blanks, here, false)
  | some (c, after) =>
      if after.atMarker then ([], after, true)
      else
        match plainBreaks (after.left + 1) after with
        | some (others, there) => (fold c others, there, true)
        | none => ([], after, true)

/-- A plain scalar ends before this character. -/
def endsPlain (inFlow : Bool) (c : Char) (next : Option Char) : Bool :=
  isSpace c ||
    (c = ':' && (endsToken next ||
      (inFlow && [',', '[', ']', '\x7b', '\x7d'].contains (next.getD ' ')))) ||
    (inFlow && [',', '?', '[', ']', '\x7b', '\x7d'].contains c)

/-- The piece of a plain scalar at the front of a line. -/
def plainPiece (inFlow : Bool) : List Char → List Char
  | [] => []
  | c :: rest =>
      if endsPlain inFlow c rest.head? then [] else c :: plainPiece inFlow rest

/-- A plain scalar: its text, the cursor after it, and whether a line was broken after its last
piece. Further lines have to be indented by `indent` unless the scalar is inside brackets. -/
def readPlain (inFlow : Bool) (indent : Int) :
    (fuel : Nat) → (spaces : List Char) → (broken : Bool) → Cursor → List Char × Cursor × Bool
  | 0, _, broken, cursor => ([], cursor, broken)
  | fuel + 1, spaces, broken, cursor =>
      if cursor.peek = some '#' then ([], cursor, broken)
      else
        let piece := plainPiece inFlow cursor.rest
        if piece.isEmpty then ([], cursor, broken)
        else
          let (next, after, nowBroken) := plainSpace (cursor.skip piece.length)
          if next.isEmpty || after.peek = some '#' || (!inFlow && (after.column : Int) < indent) then
            (spaces ++ piece, after, nowBroken)
          else
            let (more, last, lastBroken) := readPlain inFlow indent fuel next nowBroken after
            (spaces ++ piece ++ more, last, lastBroken)

/-! ## Quoted scalars -/

/-- The character that a short escape stands for. -/
def escapeValue? (c : Char) : Option Char :=
  match c with
  | '0' => some '\x00'
  | 'a' => some '\x07'
  | 'b' => some '\x08'
  | 't' => some '\t'
  | '\t' => some '\t'
  | 'n' => some '\n'
  | 'v' => some '\x0b'
  | 'f' => some '\x0c'
  | 'r' => some '\r'
  | 'e' => some '\x1b'
  | ' ' => some ' '
  | '"' => some '"'
  | '\\' => some '\\'
  | '/' => some '/'
  | 'N' => some '\u0085'
  | '_' => some '\u00a0'
  | 'L' => some '\u2028'
  | 'P' => some '\u2029'
  | _ => none

/-- The count of digits of a long escape. -/
def escapeWidth? (c : Char) : Option Nat :=
  match c with
  | 'x' => some 2
  | 'u' => some 4
  | 'U' => some 8
  | _ => none

/-- The number that a count of hexadecimal digits spells. -/
def readHex (count : Nat) (chars : List Char) : Option Nat :=
  let digits := (chars.take count).filterMap Json.hexValue?
  if digits.length = count then some (digits.foldl (fun acc d => acc * 16 + d) 0) else none

/-- The character of a code, which has to be one. -/
def charOf (code : Nat) : Reading Char :=
  if code < 0x110000 then
    .ok (Text.charOf code)
  else if code < twoTo 31 then .error .noCharacter
  else .error .farCode

/-- The line breaks and blanks at the front of a line inside quotes, with the breaks among them. No
line may begin with a marker. -/
def quotedBreaks : (fuel : Nat) → Cursor → Reading (List Char × Cursor)
  | 0, _ => malformed
  | fuel + 1, cursor =>
      if cursor.atMarker then malformed
      else
        let here := cursor.skipWhile fun c => c = ' ' || c = '\t'
        match here.lineBreak with
        | none => .ok ([], here)
        | some (c, after) => (quotedBreaks fuel after).map fun found => (c :: found.1, found.2)

/-- The space at the front inside quotes, with its folded text. -/
def quotedSpace (cursor : Cursor) : Reading (List Char × Cursor) :=
  let blanks := cursor.taken fun c => c = ' ' || c = '\t'
  let here := cursor.skip blanks.length
  match here.peek with
  | none => malformed
  | some _ =>
      match here.lineBreak with
      | none => .ok (blanks, here)
      | some (c, after) =>
          (quotedBreaks (after.left + 1) after).map fun found => (fold c found.1, found.2)

/-- The character or the line continuation that a backslash stands for. -/
def readEscape (cursor : Cursor) : Reading (List Char × Cursor) :=
  match cursor.peek with
  | none => malformed
  | some c =>
      match escapeValue? c with
      | some value => .ok ([value], cursor.next)
      | none =>
          match escapeWidth? c with
          | some width =>
              match readHex width cursor.next.rest with
              | some code => (charOf code).map fun value => ([value], cursor.next.skip width)
              | none => malformed
          | none =>
              match cursor.lineBreak with
              | some (_, after) => quotedBreaks (after.left + 1) after
              | none => malformed

/-- A scalar after its opening quote: its text and the cursor after the closing quote. -/
def readQuoted (double : Bool) : (fuel : Nat) → Cursor → Reading (List Char × Cursor)
  | 0, _ => malformed
  | fuel + 1, cursor =>
      let resume (found : List Char × Cursor) : Reading (List Char × Cursor) :=
        (readQuoted double fuel found.2).map fun more => (found.1 ++ more.1, more.2)
      match cursor.peek with
      | none => malformed
      | some c =>
          if isSpace c then (quotedSpace cursor).bind resume
          else if c = '\'' && !double then
            if cursor.peekAt 1 = some '\'' then resume (['\''], cursor.skip 2)
            else .ok ([], cursor.next)
          else if c = '"' && double then .ok ([], cursor.next)
          else if c = '\\' && double then (readEscape cursor.next).bind resume
          else resume ([c], cursor.next)

/-! ## Block scalars -/

/-- The header of a block: whether its last line breaks are all kept, one is, or none is, and how
far it is indented, when that is said. -/
structure BlockHeader where
  keep : Option Bool
  increment : Option Nat

/-- The sign of a block's header. -/
def readChomping (cursor : Cursor) : Option Bool × Cursor :=
  match cursor.peek with
  | some '+' => (some true, cursor.next)
  | some '-' => (some false, cursor.next)
  | _ => (none, cursor)

/-- The digit of a block's header, which must not be zero. -/
def readIncrement (cursor : Cursor) : Reading (Option Nat × Cursor) :=
  match cursor.peek with
  | some c =>
      if c = '0' then malformed
      else if c.isDigit then .ok (some (c.toNat - 48), cursor.next)
      else .ok (none, cursor)
  | none => .ok (none, cursor)

/-- The header of a block, up to the end of its line. -/
def readHeader (cursor : Cursor) : Reading (BlockHeader × Cursor) := do
  let (early, cursor) := readChomping cursor
  let (increment, cursor) ← readIncrement cursor
  let (late, cursor) := if early.isNone && increment.isSome then readChomping cursor
    else (none, cursor)
  if !(cursor.peek = some ' ' || endsLine cursor.peek) then malformed
  else
    let cursor := cursor.skipWhile (· = ' ')
    let cursor :=
      if cursor.peek = some '#' then cursor.skipWhile fun c => !isBreak c else cursor
    if !endsLine cursor.peek then malformed
    else
      let after := (cursor.lineBreak.map Prod.snd).getD cursor
      pure (⟨early.orElse fun _ => late, increment⟩, after)

/-- The empty lines at the front, their breaks, and the deepest column among their blanks. -/
def blockIndentation : (fuel : Nat) → (deepest : Nat) → Cursor → List Char × Nat × Cursor
  | 0, deepest, cursor => ([], deepest, cursor)
  | fuel + 1, deepest, cursor =>
      if cursor.peek = some ' ' then
        let after := cursor.next
        blockIndentation fuel (max deepest after.column) after
      else
        match cursor.lineBreak with
        | none => ([], deepest, cursor)
        | some (c, after) =>
            let (breaks, depth, last) := blockIndentation fuel deepest after
            (c :: breaks, depth, last)

/-- The blanks at the front up to a column. -/
def skipIndent (indent : Nat) (cursor : Cursor) : Cursor :=
  cursor.skip (min (indent - cursor.column) (cursor.taken (· = ' ')).length)

/-- The empty lines at the front of a block's line, their breaks, and the cursor at the line's
text. -/
def blockBreaks (indent : Nat) : (fuel : Nat) → Cursor → List Char × Cursor
  | 0, cursor => ([], cursor)
  | fuel + 1, cursor =>
      let here := skipIndent indent cursor
      match here.lineBreak with
      | none => ([], here)
      | some (c, after) =>
          let (breaks, last) := blockBreaks indent fuel after
          (c :: breaks, last)

/-- The character begins the text of a line. -/
def beginsText (c : Option Char) : Bool :=
  !(c = some ' ' || c = some '\t')

/-- A line of a block begins here. -/
def atBlockLine (indent : Nat) (cursor : Cursor) : Bool :=
  cursor.column = indent && cursor.peek.isSome

/-- The lines of a block: their text without the last line break, that break, the breaks after it,
and the cursor after them. -/
def blockLines (folded : Bool) (indent : Nat) :
    (fuel : Nat) → (breaks : List Char) → Cursor →
      List Char × List Char × List Char × Cursor
  | 0, breaks, cursor => ([], [], breaks, cursor)
  | fuel + 1, breaks, cursor =>
      if !atBlockLine indent cursor then ([], [], breaks, cursor)
      else
        let text := cursor.taken fun c => !isBreak c
        let ended := cursor.skip text.length
        let (lineEnd, after) : List Char × Cursor := match ended.lineBreak with
          | some (c, after) => ([c], after)
          | none => ([], ended)
        let (others, here) := blockBreaks indent (after.left + 1) after
        if atBlockLine indent here then
          let joint : List Char :=
            if folded && lineEnd = ['\n'] && beginsText cursor.peek && beginsText here.peek then
              if others.isEmpty then [' '] else []
            else lineEnd
          let (more, lastEnd, lastBreaks, last) := blockLines folded indent fuel others here
          (breaks ++ text ++ joint ++ more, lastEnd, lastBreaks, last)
        else (breaks ++ text, lineEnd, others, here)

/-- A block scalar after its mark, inside a collection at an indentation. -/
def readBlock (folded : Bool) (outer : Int) (cursor : Cursor) : Reading (List Char × Cursor) := do
  let (header, cursor) ← readHeader cursor
  let least := (max (outer + 1) 1).toNat
  let fuel := cursor.left + 1
  let (indent, breaks, here) : Nat × List Char × Cursor := match header.increment with
    | some n =>
        let indent := least + n - 1
        let (breaks, here) := blockBreaks indent fuel cursor
        (indent, breaks, here)
    | none =>
        let (breaks, deepest, here) := blockIndentation fuel 0 cursor
        (max least deepest, breaks, here)
  let (text, lineEnd, others, last) := blockLines folded indent fuel breaks here
  let tail : List Char := match header.keep with
    | some true => lineEnd ++ others
    | some false => []
    | none => lineEnd
  pure (text ++ tail, last)

end PagedForm.Yaml
