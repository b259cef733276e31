import Mathlib.Data.List.Chain
import PagedForm.Decision.Parse

/-!
# The written tokens of decisions

Which characters spell a token, and which texts are a layout of a sequence of tokens. `Spelling`
relates a constant to the ways of writing it between quotes, `Layout` puts any blanks before,
between and after tokens. `layout_of_scanFrom` and `scanFrom_of_layout` say that the scanner finds
exactly the tokens that were laid out; the latter asks for `Scannable` tokens, in which no name
follows another one, since two names that touch are read as one.
-/

namespace PagedForm.Decision

/-! ## Constants -/

/-- `Spelling constant raw` says that the characters `raw` between quotes stand for `constant`. Any
character may have a backslash before it, and a backslash and a quote must. -/
inductive Spelling : List Char → List Char → Prop where
  | nil : Spelling [] []
  | plain {c : Char} {constant raw : List Char} :
      c ≠ '\\' → c ≠ '\'' → Spelling constant raw → Spelling (c :: constant) (c :: raw)
  | escaped {c : Char} {constant raw : List Char} :
      Spelling constant raw → Spelling (c :: constant) ('\\' :: c :: raw)

/-- The escapes that are written spell the constant. -/
theorem Spelling.escape (constant : List Char) : Spelling constant (escape constant) := by
  induction constant with
  | nil => exact .nil
  | cons c rest ih =>
      by_cases h : c = '\\' ∨ c = '\''
      · have hc : escapeChar c = ['\\', c] := by
          rcases h with rfl | rfl <;> rfl
        rw [Decision.escape, List.flatMap_cons, hc]
        exact .escaped ih
      · rw [not_or] at h
        have hc : escapeChar c = [c] := by simp [escapeChar, h.1, h.2]
        rw [Decision.escape, List.flatMap_cons, hc]
        exact .plain h.1 h.2 ih

/-- A character that is no backslash is kept when the escapes are removed. -/
theorem unescape_cons {c : Char} (h : c ≠ '\\') (raw : List Char) :
    unescape (c :: raw) = c :: unescape raw := by
  cases raw with
  | nil => rfl
  | cons d rest => rw [unescape, if_neg h]

/-- Removing the escapes gives the constant that was spelled, so that there is only one. -/
theorem Spelling.unescape_eq {constant raw : List Char} (h : Spelling constant raw) :
    unescape raw = constant := by
  induction h with
  | nil => rfl
  | plain hback _ _ ih => rw [unescape_cons hback, ih]
  | escaped _ ih => rw [unescape, if_pos rfl, ih]

namespace Token

/-- What stands before the closing quote spells a constant. -/
theorem spelling_of_readQuoted {chars raw after : List Char}
    (h : readQuoted chars = some (raw, after)) :
    chars = raw ++ '\'' :: after ∧ Spelling (unescape raw) raw := by
  fun_induction readQuoted chars generalizing raw with
  | case1 => cases h
  | case2 rest =>
      cases h
      exact ⟨rfl, .nil⟩
  | case3 => cases h
  | case4 escaped rest _ ih =>
      obtain ⟨⟨inner, tail⟩, hinner, heq⟩ := Option.map_eq_some_iff.1 h
      cases heq
      obtain ⟨rfl, hspelling⟩ := ih hinner
      exact ⟨rfl, .escaped hspelling⟩
  | case5 c rest hquote hback ih =>
      obtain ⟨⟨inner, tail⟩, hinner, heq⟩ := Option.map_eq_some_iff.1 h
      cases heq
      obtain ⟨rfl, hspelling⟩ := ih hinner
      rw [unescape_cons hback]
      exact ⟨rfl, .plain hback hquote hspelling⟩

/-- A quote closes a string. -/
theorem readQuoted_quote (after : List Char) :
    readQuoted ('\'' :: after) = some ([], after) := by
  cases after <;> rfl

/-- A character that neither closes a string nor escapes another one belongs to it. -/
theorem readQuoted_cons {c : Char} (hback : c ≠ '\\') (hquote : c ≠ '\'') (rest : List Char) :
    readQuoted (c :: rest) =
      (readQuoted rest).map fun found => (c :: found.1, found.2) := by
  cases rest with
  | nil => simp only [readQuoted, if_neg hquote, if_neg hback]
  | cons d rest => rw [readQuoted, if_neg hquote, if_neg hback]

/-- A spelled constant is read up to its closing quote, whatever follows. -/
theorem readQuoted_of_spelling {constant raw : List Char} (h : Spelling constant raw)
    (after : List Char) : readQuoted (raw ++ '\'' :: after) = some (raw, after) := by
  induction h with
  | nil => exact readQuoted_quote after
  | plain hback hquote _ ih =>
      rw [List.cons_append, readQuoted_cons hback hquote, ih]
      rfl
  | escaped _ ih =>
      rw [List.cons_append, List.cons_append, readQuoted, if_neg (by decide), if_pos rfl, ih]
      rfl

/-! ## Tokens -/

/-- The name token with these characters. -/
def word (s : String) : Token := .name s.toList

/-- The mark token with these characters. -/
def sign (s : String) : Token := .mark s.toList

/-- A name token has the characters that it was made from. -/
@[simp] theorem chars_word (s : String) : (word s).chars = s.toList := rfl

/-- A mark has the characters that it was made from. -/
@[simp] theorem chars_sign (s : String) : (sign s).chars = s.toList := rfl

/-- The token is a name. -/
def isName : Token → Bool
  | .name _ => true
  | _ => false

/-- The characters that a token may hold. -/
inductive WellFormed : Token → Prop where
  | string {constant raw : List Char} : Spelling constant raw → WellFormed (.string raw)
  | name {chars : List Char} : Decision.isName chars = true → WellFormed (.name chars)
  | mark {c : Char} : isMark c = true → WellFormed (.mark [c])
  | equality : WellFormed (.mark ['=', '=', '='])

/-- A well-formed string spells the constant that is left when its escapes are removed. -/
theorem WellFormed.spelling {raw : List Char} (h : WellFormed (.string raw)) :
    Spelling (String.ofList (unescape raw)).toList raw := by
  cases h with
  | string hspelling => rwa [hspelling.unescape_eq, String.toList_ofList]

/-- A character of a name lies between the dollar sign and the last small letter. -/
theorem range_of_isNameChar {c : Char} (h : isNameChar c = true) :
    0x24 ≤ c.toNat ∧ c.toNat ≤ 0x7A := by
  simp only [isNameChar, isNameStart, Bool.or_eq_true, decide_eq_true_eq] at h
  delta Char.isAlpha Char.isUpper Char.isLower Char.isDigit at h
  simp only [Bool.or_eq_true, Bool.and_eq_true, decide_eq_true_eq, ge_iff_le,
    UInt32.le_iff_toNat_le] at h
  rw [Char.toNat]
  rcases h with (((h | h) | rfl) | rfl) | h
  · exact ⟨Nat.le_trans (by decide) h.1, Nat.le_trans h.2 (by decide)⟩
  · exact ⟨Nat.le_trans (by decide) h.1, Nat.le_trans h.2 (by decide)⟩
  · decide
  · decide
  · exact ⟨Nat.le_trans (by decide) h.1, Nat.le_trans h.2 (by decide)⟩

/-- No character of a name is blank. -/
theorem isBlank_of_isNameChar {c : Char} (h : isNameChar c = true) : Text.isBlank c = false := by
  have hrange := range_of_isNameChar h
  simp only [Text.isBlank, Text.inRanges, Text.blankRanges, List.any_cons, List.any_nil,
    Bool.or_eq_false_iff, Bool.and_eq_false_iff, decide_eq_false_iff_not, and_true]
  omega

/-- A mark is neither blank nor a character of a name, and it opens no string. -/
theorem plain_of_isMark {c : Char} (h : isMark c = true) :
    Text.isBlank c = false ∧ isNameChar c = false ∧ c ≠ '\'' := by
  simp only [isMark, Bool.or_eq_true, decide_eq_true_eq] at h
  rcases h with (((((rfl | rfl) | rfl) | rfl) | rfl) | rfl) | rfl <;> decide

/-- A character that begins a name is one of its characters. -/
theorem isNameChar_of_isNameStart {c : Char} (h : isNameStart c = true) :
    isNameChar c = true := by
  simp [isNameChar, h]

/-- A token begins with a character that is not blank, and unless it is a name that character
cannot stand in one. -/
theorem WellFormed.chars_eq_cons {token : Token} (h : token.WellFormed) :
    ∃ c rest, token.chars = c :: rest ∧ Text.isBlank c = false ∧
      (token.isName = false → isNameChar c = false) := by
  cases h with
  | string hspelling => exact ⟨'\'', _, rfl, by decide, fun _ => by decide⟩
  | @name chars hname =>
      cases chars with
      | nil => cases hname
      | cons c rest =>
          rw [Decision.isName, Bool.and_eq_true] at hname
          refine ⟨c, rest, rfl, ?_, fun h => by cases h⟩
          exact isBlank_of_isNameChar (isNameChar_of_isNameStart hname.1)
  | @mark c hmark =>
      obtain ⟨hblank, hname, _⟩ := plain_of_isMark hmark
      exact ⟨c, [], rfl, hblank, fun _ => hname⟩
  | equality => exact ⟨'=', _, rfl, by decide, fun _ => by decide⟩

/-- The mark of equality is found in front of anything. -/
theorem read?_equality (after : List Char) :
    read? ('=' :: '=' :: '=' :: after) = some (.mark ['=', '=', '='], after) := by
  rw [read?, if_neg (by decide), if_neg (by decide), if_pos rfl]

/-- A character that begins a name opens no string and is no mark. -/
theorem apart_of_isNameChar {c : Char} (h : isNameChar c = true) :
    c ≠ '\'' ∧ isMark c = false ∧ c ≠ '=' := by
  refine ⟨?_, ?_, ?_⟩
  · rintro rfl
    revert h
    decide
  · rw [Bool.eq_false_iff]
    intro hmark
    rw [(plain_of_isMark hmark).2.1] at h
    cases h
  · rintro rfl
    revert h
    decide

/-- A name ends before a character that cannot stand in it. -/
theorem name_ends {after : List Char} (h : ∀ c ∈ after.head?, isNameChar c = false) :
    after.takeWhile isNameChar = [] ∧ after.dropWhile isNameChar = after := by
  cases after with
  | nil => exact ⟨rfl, rfl⟩
  | cons c rest => simp [h c rfl]

/-- A token is read off the front of a text, unless it is a name and the text goes on with a
character that makes the name longer. -/
theorem read?_chars_append {token : Token} (h : token.WellFormed) {after : List Char}
    (hafter : token.isName = true → ∀ c ∈ after.head?, isNameChar c = false) :
    read? (token.chars ++ after) = some (token, after) := by
  cases h with
  | @string constant raw hspelling =>
      have hread := readQuoted_of_spelling hspelling after
      simp only [chars, List.cons_append, List.append_assoc, List.nil_append, read?, if_pos, hread,
        Option.map_some]
  | @name chars hname =>
      cases chars with
      | nil => cases hname
      | cons c rest =>
          -- All of the name is taken and nothing after it.
          rw [Decision.isName, Bool.and_eq_true] at hname
          obtain ⟨hstart, hrest⟩ := hname
          obtain ⟨hquote, hmark, heq⟩ := apart_of_isNameChar (isNameChar_of_isNameStart hstart)
          have hall : ∀ d ∈ rest, isNameChar d = true := List.all_eq_true.1 hrest
          have htake : (rest ++ after).takeWhile isNameChar = rest := by
            rw [List.takeWhile_append_of_pos hall, (name_ends (hafter rfl)).1, List.append_nil]
          have hdrop : (rest ++ after).dropWhile isNameChar = after := by
            rw [List.dropWhile_append_of_pos hall, (name_ends (hafter rfl)).2]
          simp only [Token.chars, List.cons_append, read?, if_neg hquote, hmark, if_neg heq,
            hstart, htake, hdrop, if_true, Bool.false_eq_true, if_false]
  | @mark c hmark =>
      obtain ⟨_, _, hquote⟩ := plain_of_isMark hmark
      simp only [chars, List.cons_append, List.nil_append, read?, if_neg hquote, hmark, if_true]
  | equality => exact read?_equality after

/-- Well-formed tokens with the same characters are the same token. -/
theorem WellFormed.chars_inj {token other : Token} (h : token.WellFormed)
    (hother : other.WellFormed) (hchars : token.chars = other.chars) : token = other := by
  -- Reading is a function of the characters.
  have hread : read? (token.chars ++ []) = some (token, []) :=
    read?_chars_append h fun _ _ hc => by cases hc
  have hread' : read? (other.chars ++ []) = some (other, []) :=
    read?_chars_append hother fun _ _ hc => by cases hc
  rw [hchars, hread'] at hread
  cases hread
  rfl

/-- A token that is read off the front of a text is a well-formed one. -/
theorem wellFormed_of_read? {chars after : List Char} {token : Token}
    (h : read? chars = some (token, after)) :
    token.WellFormed ∧ chars = token.chars ++ after := by
  cases chars with
  | nil => cases h
  | cons c rest =>
      simp only [read?] at h
      split at h
      · next hquote =>
          obtain ⟨⟨raw, tail⟩, hread, heq⟩ := Option.map_eq_some_iff.1 h
          cases heq
          obtain ⟨hrest, hspelling⟩ := spelling_of_readQuoted hread
          refine ⟨.string hspelling, ?_⟩
          rw [hquote, hrest]
          simp [Token.chars]
      · split at h
        · next hmark =>
            cases h
            exact ⟨.mark hmark, rfl⟩
        · split at h
          · next heq =>
              split at h
              · cases h
                exact ⟨.equality, by rw [heq]; rfl⟩
              · cases h
          · split at h
            · next hstart =>
                cases h
                refine ⟨.name ?_, ?_⟩
                · rw [Decision.isName, hstart, List.all_takeWhile]
                  rfl
                · simp [Token.chars, List.takeWhile_append_dropWhile]
            · cases h

/-! ## Layouts -/

/-- `Layout tokens chars` says that the text consists of the tokens in order, with any blanks
before, between and after them. -/
inductive Layout : List Token → List Char → Prop where
  | nil : Layout [] []
  | blank {c : Char} {tokens : List Token} {chars : List Char} :
      Text.isBlank c = true → Layout tokens chars → Layout tokens (c :: chars)
  | token (token : Token) {tokens : List Token} {chars : List Char} :
      Layout tokens chars → Layout (token :: tokens) (token.chars ++ chars)

/-- A token alone is a layout of itself. -/
theorem Layout.single (token : Token) : Layout [token] token.chars := by
  have h := Layout.token token .nil
  rwa [List.append_nil] at h

/-- Two layouts one after the other are a layout. -/
theorem Layout.append {first second : List Token} {chars rest : List Char}
    (h : Layout first chars) (hrest : Layout second rest) :
    Layout (first ++ second) (chars ++ rest) := by
  induction h with
  | nil => exact hrest
  | blank hblank _ ih => exact .blank hblank ih
  | token token _ ih =>
      rw [List.append_assoc]
      exact .token token ih

/-- No tokens are laid out exactly by the blank texts. -/
theorem layout_nil_iff {chars : List Char} :
    Layout [] chars ↔ chars.all Text.isBlank = true := by
  constructor
  · intro h
    generalize htokens : ([] : List Token) = tokens at h
    induction h with
    | nil => rfl
    | blank hblank _ ih => rw [List.all_cons, hblank, ih htokens, Bool.and_self]
    | token => cases htokens
  · intro h
    induction chars with
    | nil => exact .nil
    | cons c rest ih =>
        rw [List.all_cons, Bool.and_eq_true] at h
        exact .blank h.1 (ih h.2)

/-- Two names do not stand side by side, where they could touch. -/
def Apart (first second : Token) : Prop :=
  first.isName = true → second.isName = false

/-- Well-formed tokens in an order that lets the scanner find them in any layout. -/
structure Scannable (tokens : List Token) : Prop where
  wellFormed : ∀ token ∈ tokens, token.WellFormed
  apart : tokens.IsChain Apart

/-- No tokens are scannable. -/
theorem Scannable.nil : Scannable [] :=
  ⟨by simp, .nil⟩

/-- A well-formed token alone is scannable. -/
theorem Scannable.single {token : Token} (h : token.WellFormed) : Scannable [token] :=
  ⟨by simpa using h, .singleton token⟩

/-- A mark may stand between any two scannable sequences. -/
theorem Scannable.sign_append {first second : List Token} {s : String} (h : Scannable first)
    (hsign : (sign s).WellFormed) (hrest : Scannable second) :
    Scannable (first ++ sign s :: second) := by
  refine ⟨?_, ?_⟩
  · rw [List.forall_mem_append, List.forall_mem_cons]
    exact ⟨h.wellFormed, hsign, hrest.wellFormed⟩
  · rw [List.isChain_append, List.isChain_cons]
    refine ⟨h.apart, ⟨?_, hrest.apart⟩, ?_⟩
    · intro other _ hname
      cases hname
    · intro token _ other hother _
      cases hother
      rfl

/-- What a layout begins with cannot make a name before it longer, unless it is a name. -/
theorem Layout.head_not_name {tokens : List Token} {chars : List Char} (h : Layout tokens chars)
    (hwell : ∀ token ∈ tokens, token.WellFormed)
    (hname : ∀ token ∈ tokens.head?, token.isName = false) :
    ∀ c ∈ chars.head?, isNameChar c = false := by
  intro c hc
  cases h with
  | nil => cases hc
  | @blank d tokens chars hblank _ =>
      cases hc
      rw [Bool.eq_false_iff]
      intro h
      rw [isBlank_of_isNameChar h] at hblank
      cases hblank
  | token token _ =>
      obtain ⟨d, rest, hchars, _, hplain⟩ := (hwell token List.mem_cons_self).chars_eq_cons
      rw [hchars] at hc
      cases hc
      exact hplain (hname token rfl)

/-- The scanner finds scannable tokens in any layout of them. -/
theorem scanFrom_of_layout {tokens : List Token} {chars : List Char} (h : Layout tokens chars)
    (hscan : Scannable tokens) (offset : Nat) : scanFrom offset chars = .ok tokens := by
  induction h generalizing offset with
  | nil => rw [scanFrom]
  | blank hblank _ ih => rw [scanFrom, if_pos hblank, ih hscan]
  | @token token tokens chars hlayout ih =>
      obtain ⟨hwell, hapart⟩ := hscan
      rw [List.forall_mem_cons] at hwell
      rw [List.isChain_cons] at hapart
      -- The next token cannot make this one longer, so that it is read as a whole.
      have hread : read? (token.chars ++ chars) = some (token, chars) := by
        apply read?_chars_append hwell.1
        intro hname
        exact hlayout.head_not_name hwell.2 fun other hother => hapart.1 other hother hname
      obtain ⟨c, rest, hchars, hblank, _⟩ := hwell.1.chars_eq_cons
      rw [hchars, List.cons_append] at hread ⊢
      rw [scanFrom, hblank, if_neg Bool.false_ne_true]
      split
      · next found after hfound =>
          rw [hread] at hfound
          cases hfound
          rw [ih ⟨hwell.2, hapart.2⟩]
          rfl
      · next hnone =>
          rw [hread] at hnone
          cases hnone

/-- The tokens that the scanner finds are laid out in the text. -/
theorem layout_of_scanFrom {offset : Nat} {chars : List Char} {tokens : List Token}
    (h : scanFrom offset chars = .ok tokens) :
    Layout tokens chars ∧ ∀ token ∈ tokens, token.WellFormed := by
  fun_induction scanFrom offset chars generalizing tokens with
  | case1 =>
      cases h
      exact ⟨.nil, by simp⟩
  | case2 offset c rest hblank ih =>
      obtain ⟨hlayout, hwell⟩ := ih h
      exact ⟨.blank hblank hlayout, hwell⟩
  | case3 offset c rest hblank token after hread ih =>
      cases hscan : scanFrom (offset + token.chars.length) after with
      | error fault =>
          rw [hscan] at h
          cases h
      | ok found =>
          rw [hscan] at h
          cases h
          obtain ⟨hlayout, hwell⟩ := ih hscan
          obtain ⟨htoken, hchars⟩ := wellFormed_of_read? hread
          rw [hchars]
          exact ⟨.token token hlayout, List.forall_mem_cons.2 ⟨htoken, hwell⟩⟩
  | case4 => cases h

/-- A text that cannot be scanned holds a character that begins no token. -/
theorem scanFrom_ne_empty (offset : Nat) (chars : List Char) :
    scanFrom offset chars ≠ .error .empty := by
  fun_induction scanFrom offset chars with
  | case1 => exact fun h => by cases h
  | case2 offset c rest _ ih => exact ih
  | case3 offset c rest _ token after _ ih =>
      cases hscan : scanFrom (offset + token.chars.length) after with
      | error fault =>
          rw [hscan] at ih
          exact ih
      | ok found => exact fun h => by cases h
  | case4 => exact fun h => by cases h

end Token

end PagedForm.Decision
