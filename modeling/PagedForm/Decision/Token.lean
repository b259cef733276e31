import PagedForm.Decision.Render
import PagedForm.Text.Blank

/-!
# Tokens of written decisions

A written decision is a sequence of strings, names and marks, with blanks anywhere between them.
A string keeps its escapes until it is read as a constant. `length_read?_lt` says that every token
takes at least one character, so a text is read in as many steps.
-/

namespace PagedForm.Decision

/-- A token. A string holds the characters between its quotes as they were written. -/
inductive Token where
  | string (raw : List Char)
  | name (chars : List Char)
  | mark (chars : List Char)
  deriving DecidableEq, Repr

namespace Token

/-- The characters of a token. -/
def chars : Token → List Char
  | .string raw => '\'' :: raw ++ ['\'']
  | .name chars => chars
  | .mark chars => chars

/-- The text of a token. -/
def text (token : Token) : String :=
  String.ofList token.chars

/-- The characters that are marks by themselves. -/
def isMark (c : Char) : Bool :=
  c = '?' || c = ':' || c = '(' || c = ')' || c = '.' || c = '[' || c = ']'

/-- The rest of a string after its opening quote: the characters up to the closing quote, and
what follows it. -/
def readQuoted : List Char → Option (List Char × List Char)
  | [] => none
  | c :: rest =>
      if c = '\'' then some ([], rest)
      else if c = '\\' then
        match rest with
        | [] => none
        | escaped :: after =>
            (readQuoted after).map fun found => (c :: escaped :: found.1, found.2)
      else (readQuoted rest).map fun found => (c :: found.1, found.2)

/-- The token at the front of a text, and what follows it. -/
def read? : List Char → Option (Token × List Char)
  | [] => none
  | c :: rest =>
      if c = '\'' then (readQuoted rest).map fun found => (.string found.1, found.2)
      else if isMark c then some (.mark [c], rest)
      else if c = '=' then
        match rest with
        | '=' :: '=' :: after => some (.mark ['=', '=', '='], after)
        | _ => none
      else if isNameStart c then
        some (.name (c :: rest.takeWhile isNameChar), rest.dropWhile isNameChar)
      else none

/-- What follows a string is shorter than what stood before it. -/
theorem length_readQuoted_le {chars : List Char} {found : List Char × List Char}
    (h : readQuoted chars = some found) : found.2.length ≤ chars.length := by
  fun_induction readQuoted chars generalizing found with
  | case1 => simp at h
  | case2 rest =>
      cases h
      simp
  | case3 => simp at h
  | case4 escaped after _ ih =>
      obtain ⟨inner, hinner, rfl⟩ := Option.map_eq_some_iff.1 h
      have := ih hinner
      simp only [List.length_cons]
      omega
  | case5 c rest _ _ ih =>
      obtain ⟨inner, hinner, rfl⟩ := Option.map_eq_some_iff.1 h
      have := ih hinner
      simp only [List.length_cons]
      omega

/-- What follows a token is shorter than what stood before it. -/
theorem length_read?_lt {chars : List Char} {token : Token} {after : List Char}
    (h : read? chars = some (token, after)) : after.length < chars.length := by
  match chars with
  | [] => simp [read?] at h
  | c :: rest =>
      simp only [read?] at h
      split at h
      · obtain ⟨found, hfound, heq⟩ := Option.map_eq_some_iff.1 h
        have := length_readQuoted_le hfound
        cases heq
        simp only [List.length_cons]
        omega
      · split at h
        · cases h
          simp
        · split at h
          · split at h
            · cases h
              simp only [List.length_cons]
              omega
            · simp at h
          · split at h
            · cases h
              have := (List.dropWhile_sublist isNameChar (l := rest)).length_le
              simp only [List.length_cons]
              omega
            · simp at h

/-- The tokens of a text that begins at `offset`. -/
def scanFrom (offset : Nat) (chars : List Char) : Except DecisionFault (List Token) :=
  match chars with
  | [] => .ok []
  | c :: rest =>
      if Text.isBlank c then scanFrom (offset + 1) rest
      else
        match _shorter : read? (c :: rest) with
        | some (token, after) =>
            (scanFrom (offset + token.chars.length) after).map (token :: ·)
        | none => .error (.badCharacter c offset)
termination_by chars.length
decreasing_by
  · exact Nat.lt_succ_self rest.length
  · exact length_read?_lt _shorter

/-- The tokens of a text; there must be one. -/
def scan (text : String) : Except DecisionFault (List Token) :=
  match scanFrom 0 text.toList with
  | .ok [] => .error .empty
  | result => result

end Token

end PagedForm.Decision
