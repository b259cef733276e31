import Mathlib.Data.List.Basic
import PagedForm.Diagram

/-!
# Reading statements of diagrams

A reader for the part of the DOT language in which diagrams are written: a line is a statement
about a node, or about an edge from one node to another, with attributes in brackets. The reader
knows words, quoted texts and signs, and nothing about forms. `Statement.read?_write` says that it
finds in a written statement what was written, whatever characters the quoted texts hold, and
`Statement.newline_not_mem_write` that a written statement stays on its line.
-/

namespace PagedForm.Diagram

/-! ## Tokens -/

/-- A token of a line. `unclosed` is a quoted text without an end. -/
inductive Token where
  | word (s : String)
  | quoted (s : String)
  | sign (c : Char)
  | unclosed
  deriving DecidableEq, Repr

/-- Where a reader is in a line: between two tokens, or inside a word or a quoted text of which it
has read these characters, in reverse; `escape` is the place behind a backslash. -/
inductive Place where
  | between
  | word (found : List Char)
  | quoted (found : List Char)
  | escape (found : List Char)

/-- Words are made of letters, digits and underscores. -/
def isWordChar (c : Char) : Bool :=
  c.isAlphanum || c = '_'

/-- The character that an escape stands for. -/
def unescapeChar (c : Char) : Char :=
  if c = 'n' then '\n' else c

/-- What a character between two tokens is, and the place behind it. -/
def beginToken (c : Char) : List Token × Place :=
  if c = ' ' then ([], .between)
  else if c = '"' then ([], .quoted [])
  else if isWordChar c then ([], .word [c])
  else ([.sign c], .between)

/-- The tokens of the characters after a place. -/
def tokens : Place → List Char → List Token
  | .between, [] => []
  | .word found, [] => [.word (String.ofList found.reverse)]
  | .quoted _, [] => [.unclosed]
  | .escape _, [] => [.unclosed]
  | .between, c :: rest => (beginToken c).1 ++ tokens (beginToken c).2 rest
  | .word found, c :: rest =>
      if isWordChar c then tokens (.word (c :: found)) rest
      else
        .word (String.ofList found.reverse) :: (beginToken c).1 ++ tokens (beginToken c).2 rest
  | .quoted found, c :: rest =>
      if c = '"' then .quoted (String.ofList found.reverse) :: tokens .between rest
      else if c = '\\' then tokens (.escape found) rest
      else tokens (.quoted (c :: found)) rest
  | .escape found, c :: rest => tokens (.quoted (unescapeChar c :: found)) rest

/-! ## Statements -/

/-- The value of an attribute. -/
inductive AttributeValue where
  | word (s : String)
  | quoted (s : String)
  deriving DecidableEq, Repr

/-- A statement about a node, or about an edge when it has a target. -/
structure Statement where
  source : String
  target : Option String
  attributes : List (String × AttributeValue)
  deriving DecidableEq, Repr

/-- The value that a token spells. -/
def AttributeValue.ofToken? : Token → Option AttributeValue
  | .word s => some (.word s)
  | .quoted s => some (.quoted s)
  | _ => none

namespace Statement

/-- Attributes up to the end of a statement. -/
def attributes? : List Token → Option (List (String × AttributeValue))
  | [.word key, .sign '=', value, .sign ']', .sign ';'] =>
      (AttributeValue.ofToken? value).map fun v => [(key, v)]
  | .word key :: .sign '=' :: value :: .sign ',' :: rest =>
      (AttributeValue.ofToken? value).bind fun v =>
        (attributes? rest).map fun others => (key, v) :: others
  | _ => none

/-- The end of a statement: its attributes in brackets, if it has any. -/
def ending? : List Token → Option (List (String × AttributeValue))
  | [.sign ';'] => some []
  | .sign '[' :: rest => attributes? rest
  | _ => none

/-- The statement that tokens spell. -/
def ofTokens? : List Token → Option Statement
  | .word source :: .sign '-' :: .sign '>' :: .word target :: rest =>
      (ending? rest).map fun attributes => ⟨source, some target, attributes⟩
  | .word source :: rest => (ending? rest).map fun attributes => ⟨source, none, attributes⟩
  | _ => none

/-- The statement on a line. -/
def read? (line : String) : Option Statement :=
  ofTokens? (tokens .between line.toList)

end Statement

/-! ## Written statements -/

/-- A text is a word. -/
def IsWord (s : String) : Prop :=
  s.toList ≠ [] ∧ ∀ c ∈ s.toList, isWordChar c = true

instance (s : String) : Decidable (IsWord s) :=
  decidable_of_iff ((!s.toList.isEmpty && s.toList.all isWordChar) = true) (by simp [IsWord])

/-- The value of an attribute as it is written. -/
def AttributeValue.write : AttributeValue → String
  | .word s => s
  | .quoted s => quote s

/-- An attribute as it is written. -/
def writeAttribute (entry : String × AttributeValue) : String :=
  entry.1 ++ "=" ++ entry.2.write

namespace Statement

/-- The end of a statement as it is written: its attributes in brackets, if it has any. -/
def writeEnding (entries : List (String × AttributeValue)) : String :=
  (if entries.isEmpty then "" else " [" ++ ", ".intercalate (entries.map writeAttribute) ++ "]") ++
    ";"

/-- A statement as it is written. -/
def write (statement : Statement) : String :=
  "  " ++ statement.source ++ (match statement.target with
    | some target => " -> " ++ target
    | none => "") ++ writeEnding statement.attributes

/-- The nodes of a statement are words, and so are the keys of its attributes and the values that
are not quoted. -/
structure IsWritable (statement : Statement) : Prop where
  source : IsWord statement.source
  target : ∀ target ∈ statement.target, IsWord target
  keys : ∀ entry ∈ statement.attributes, IsWord entry.1
  values : ∀ entry ∈ statement.attributes, ∀ s, entry.2 = .word s → IsWord s

end Statement

/-! ## Reading what was written -/

/-- The characters after a word do not go on with it. -/
def EndsWord (rest : List Char) : Prop :=
  ∀ c ∈ rest.head?, isWordChar c = false

/-- A character that is not of a word ends one. -/
theorem endsWord_cons {c : Char} (h : isWordChar c = false) (rest : List Char) :
    EndsWord (c :: rest) := by
  rintro _ ⟨⟩
  exact h

/-- A word is read up to its end. -/
theorem tokens_word {found chars rest : List Char} (hchars : ∀ c ∈ chars, isWordChar c = true)
    (hrest : EndsWord rest) :
    tokens (.word found) (chars ++ rest) =
      .word (String.ofList (found.reverse ++ chars)) :: tokens .between rest := by
  induction chars generalizing found with
  | nil =>
      cases rest with
      | nil => simp [tokens]
      | cons c rest => simp [tokens, hrest c rfl]
  | cons c chars ih =>
      obtain ⟨hc, hchars⟩ := List.forall_mem_cons.1 hchars
      rw [List.cons_append, tokens, if_pos hc, ih hchars, List.reverse_cons, List.append_assoc]
      rfl

/-- A word is a token. -/
theorem tokens_isWord {s : String} (hs : IsWord s) {rest : List Char} (hrest : EndsWord rest) :
    tokens .between (s.toList ++ rest) = .word s :: tokens .between rest := by
  obtain ⟨hne, hchars⟩ := hs
  obtain ⟨c, chars, heq⟩ := List.exists_cons_of_ne_nil hne
  rw [heq] at hchars
  obtain ⟨hc, hchars⟩ := List.forall_mem_cons.1 hchars
  have hbegin : beginToken c = ([], .word [c]) := by
    have hblank : c ≠ ' ' := by
      rintro rfl
      cases hc
    have hquote : c ≠ '"' := by
      rintro rfl
      cases hc
    rw [beginToken, if_neg hblank, if_neg hquote, if_pos hc]
  have hs : String.ofList (c :: chars) = s := by rw [← heq, String.ofList_toList]
  rw [heq, List.cons_append, tokens, hbegin, List.nil_append, tokens_word hchars hrest]
  simpa using hs

/-- A quoted text is read up to its closing quote, without its escapes. -/
theorem tokens_quoted (found chars rest : List Char) :
    tokens (.quoted found) (chars.flatMap escapeChar ++ '"' :: rest) =
      .quoted (String.ofList (found.reverse ++ chars)) :: tokens .between rest := by
  induction chars generalizing found with
  | nil => simp [tokens]
  | cons c chars ih =>
      rw [List.flatMap_cons, List.append_assoc]
      -- The three characters that are escaped are read behind a backslash, all others as they are.
      by_cases hback : c = '\\'
      · subst hback
        simp [escapeChar, tokens, unescapeChar, ih]
      by_cases hquote : c = '"'
      · subst hquote
        simp [escapeChar, tokens, unescapeChar, ih]
      by_cases hline : c = '\n'
      · subst hline
        simp [escapeChar, tokens, unescapeChar, ih]
      simp [escapeChar, tokens, hback, hquote, hline, ih]

/-- A quoted label is a token, whatever characters it holds. -/
theorem tokens_quote (s : String) (rest : List Char) :
    tokens .between ((quote s).toList ++ rest) = .quoted s :: tokens .between rest := by
  have hopen : beginToken '"' = ([], .quoted []) := rfl
  have hchars : (quote s).toList ++ rest = '"' :: (s.toList.flatMap escapeChar ++ '"' :: rest) := by
    simp [quote]
  rw [hchars, tokens, hopen, List.nil_append, tokens_quoted]
  simp

/-- A sign is a token. -/
theorem tokens_sign {c : Char} (h : beginToken c = ([.sign c], .between)) (rest : List Char) :
    tokens .between (c :: rest) = .sign c :: tokens .between rest := by
  rw [tokens, h]
  rfl

/-- Blanks between tokens do not count. -/
theorem tokens_blank (rest : List Char) :
    tokens .between (' ' :: rest) = tokens .between rest :=
  rfl

/-- The token of a value. -/
def AttributeValue.token : AttributeValue → Token
  | .word s => .word s
  | .quoted s => .quoted s

/-- A token spells the value that it is the token of. -/
theorem AttributeValue.ofToken?_token (value : AttributeValue) :
    ofToken? value.token = some value := by
  cases value <;> rfl

/-- A written value is its token. -/
theorem tokens_value {value : AttributeValue} (hvalue : ∀ s, value = .word s → IsWord s)
    {rest : List Char} (hrest : EndsWord rest) :
    tokens .between (value.write.toList ++ rest) = value.token :: tokens .between rest := by
  cases value with
  | word s => exact tokens_isWord (hvalue s rfl) hrest
  | quoted s => exact tokens_quote s rest

/-- A written attribute is a key, a sign and a value. -/
theorem tokens_writeAttribute {entry : String × AttributeValue} (hkey : IsWord entry.1)
    (hvalue : ∀ s, entry.2 = .word s → IsWord s) {rest : List Char} (hrest : EndsWord rest) :
    tokens .between ((writeAttribute entry).toList ++ rest) =
      .word entry.1 :: .sign '=' :: entry.2.token :: tokens .between rest := by
  have hchars : (writeAttribute entry).toList ++ rest =
      entry.1.toList ++ '=' :: (entry.2.write.toList ++ rest) := by
    simp [writeAttribute]
  rw [hchars, tokens_isWord hkey (endsWord_cons rfl _), tokens_sign rfl,
    tokens_value hvalue hrest]

namespace Statement

/-- The attributes in the brackets are found in what was written of them. -/
theorem attributes?_write {entries : List (String × AttributeValue)} (hne : entries ≠ [])
    (hkeys : ∀ entry ∈ entries, IsWord entry.1)
    (hvalues : ∀ entry ∈ entries, ∀ s, entry.2 = .word s → IsWord s) :
    attributes? (tokens .between
      ((", ".intercalate (entries.map writeAttribute)).toList ++ [']', ';'])) = some entries := by
  induction entries with
  | nil => exact absurd rfl hne
  | cons entry rest ih =>
      obtain ⟨hkey, hkeys⟩ := List.forall_mem_cons.1 hkeys
      obtain ⟨hvalue, hvalues⟩ := List.forall_mem_cons.1 hvalues
      cases rest with
      | nil =>
          have htokens : tokens .between [']', ';'] = [.sign ']', .sign ';'] := rfl
          rw [List.map_singleton, String.intercalate_singleton,
            tokens_writeAttribute hkey hvalue (endsWord_cons rfl _), htokens, attributes?,
            AttributeValue.ofToken?_token]
          rfl
      | cons next rest =>
          have hchars : (", ".intercalate ((entry :: next :: rest).map writeAttribute)).toList ++
              [']', ';'] = (writeAttribute entry).toList ++ ',' :: ' ' ::
                ((", ".intercalate ((next :: rest).map writeAttribute)).toList ++ [']', ';']) := by
            simp [String.intercalate_cons_cons]
          rw [hchars, tokens_writeAttribute hkey hvalue (endsWord_cons rfl _), tokens_sign rfl,
            tokens_blank, attributes?, AttributeValue.ofToken?_token,
            ih (List.cons_ne_nil _ _) hkeys hvalues]
          rfl

/-- The end of a statement begins with a sign, which is not that of an edge, and the attributes are
found in it. -/
theorem ending?_writeEnding {entries : List (String × AttributeValue)}
    (hkeys : ∀ entry ∈ entries, IsWord entry.1)
    (hvalues : ∀ entry ∈ entries, ∀ s, entry.2 = .word s → IsWord s) :
    ∃ c rest, tokens .between (writeEnding entries).toList = .sign c :: rest ∧ c ≠ '-' ∧
      ending? (.sign c :: rest) = some entries := by
  cases hempty : entries.isEmpty with
  | true =>
      obtain rfl := List.isEmpty_iff.1 hempty
      exact ⟨';', [], rfl, by decide, rfl⟩
  | false =>
      have hne : entries ≠ [] := List.isEmpty_eq_false_iff.1 hempty
      have hchars : (writeEnding entries).toList =
          ' ' :: '[' :: ((", ".intercalate (entries.map writeAttribute)).toList ++ [']', ';']) := by
        simp [writeEnding, hne]
      refine ⟨'[', _, ?_, by decide, attributes?_write hne hkeys hvalues⟩
      rw [hchars, tokens_blank, tokens_sign rfl]

/-- The end of a statement does not go on with the word before it. -/
theorem endsWord_writeEnding (entries : List (String × AttributeValue)) :
    EndsWord (writeEnding entries).toList := by
  cases entries with
  | nil => exact endsWord_cons rfl []
  | cons entry rest =>
      have hchars : ∃ more, (writeEnding (entry :: rest)).toList = ' ' :: more := by
        simp [writeEnding]
      obtain ⟨more, hmore⟩ := hchars
      rw [hmore]
      exact endsWord_cons rfl more

/-- A written statement is read as it was. -/
theorem read?_write {statement : Statement} (h : statement.IsWritable) :
    read? statement.write = some statement := by
  obtain ⟨source, target, entries⟩ := statement
  obtain ⟨hsource, htarget, hkeys, hvalues⟩ := h
  obtain ⟨c, rest, htokens, hsign, hending⟩ := ending?_writeEnding hkeys hvalues
  have hends := endsWord_writeEnding entries
  cases target with
  | none =>
      have hchars : (write ⟨source, none, entries⟩).toList =
          ' ' :: ' ' :: (source.toList ++ (writeEnding entries).toList) := by
        simp [write]
      rw [read?, hchars, tokens_blank, tokens_blank, tokens_isWord hsource hends, htokens,
        ofTokens?, hending]
      · rfl
      · intro other more heq
        exact hsign (Token.sign.inj (List.cons.inj heq).1)
  | some target =>
      have hchars : (write ⟨source, some target, entries⟩).toList =
          ' ' :: ' ' :: (source.toList ++ ' ' :: '-' :: '>' :: ' ' ::
            (target.toList ++ (writeEnding entries).toList)) := by
        simp [write]
      rw [read?, hchars, tokens_blank, tokens_blank,
        tokens_isWord hsource (endsWord_cons rfl _), tokens_blank, tokens_sign rfl,
        tokens_sign rfl, tokens_blank, tokens_isWord (htarget target rfl) hends, htokens,
        ofTokens?, hending]
      rfl

end Statement

/-! ## Written statements stay on their line -/

/-- What is neither in the separator nor in the parts is not in the joined list. -/
theorem not_mem_intercalate {α : Type} {a : α} {separator : List α} {parts : List (List α)}
    (hseparator : a ∉ separator) (hparts : ∀ part ∈ parts, a ∉ part) :
    a ∉ separator.intercalate parts := by
  induction parts with
  | nil => simp
  | cons part rest ih =>
      obtain ⟨hpart, hrest⟩ := List.forall_mem_cons.1 hparts
      cases rest with
      | nil => simpa using hpart
      | cons next rest =>
          rw [List.intercalate_cons_cons]
          simp [hpart, hseparator, ih hrest]

/-- A word holds no line break. -/
theorem IsWord.newline_not_mem {s : String} (h : IsWord s) : '\n' ∉ s.toList := by
  intro hmem
  exact absurd (h.2 _ hmem) (by decide)

/-- A quoted label holds no line break, whatever characters the label holds. -/
theorem newline_not_mem_quote (s : String) : '\n' ∉ (quote s).toList := by
  have hchar (c : Char) : '\n' ∉ escapeChar c := by
    unfold escapeChar
    split
    · decide
    · split
      · decide
      · split
        · decide
        · next hline => simpa using Ne.symm hline
  simp [quote, hchar]

/-- A written attribute holds no line break. -/
theorem newline_not_mem_writeAttribute {entry : String × AttributeValue} (hkey : IsWord entry.1)
    (hvalue : ∀ s, entry.2 = .word s → IsWord s) :
    '\n' ∉ (writeAttribute entry).toList := by
  have hwritten : '\n' ∉ entry.2.write.toList := by
    cases heq : entry.2 with
    | word s => exact (hvalue s heq).newline_not_mem
    | quoted s => exact newline_not_mem_quote s
  simp [writeAttribute, hkey.newline_not_mem, hwritten]

/-- A written statement holds no line break. -/
theorem Statement.newline_not_mem_write {statement : Statement} (h : statement.IsWritable) :
    '\n' ∉ statement.write.toList := by
  obtain ⟨source, target, entries⟩ := statement
  obtain ⟨hsource, htarget, hkeys, hvalues⟩ := h
  have hentries : '\n' ∉ (", ".intercalate (entries.map writeAttribute)).toList := by
    rw [String.toList_intercalate, List.map_map]
    refine not_mem_intercalate (by decide) ?_
    rw [List.forall_mem_map]
    exact fun entry hentry =>
      newline_not_mem_writeAttribute (hkeys entry hentry) (hvalues entry hentry)
  have hending : '\n' ∉ (writeEnding entries).toList := by
    unfold writeEnding
    split
    · decide
    · simp only [String.toList_append, List.mem_append, not_or]
      exact ⟨⟨⟨by decide, hentries⟩, by decide⟩, by decide⟩
  cases target with
  | none => simp [write, hsource.newline_not_mem, hending]
  | some target =>
      simp [write, hsource.newline_not_mem, (htarget target rfl).newline_not_mem, hending]

end PagedForm.Diagram
