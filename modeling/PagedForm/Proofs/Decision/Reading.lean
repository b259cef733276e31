import PagedForm.Proofs.Decision.Grammar

/-!
# Reading accepts exactly the grammar

The reader of decisions against the grammar of their written form. `parseTokens_append` says that
derived tokens are read as what they are derived for, whatever follows, and `parseTokens_eq_ok`
that nothing else is read. `parse_accepts_grammar` puts both together for texts.
-/

namespace PagedForm.Decision

open Token
open Result (ok_bind)

/-! ## Reading what is derived -/

/-- A name that is due is taken off the front. -/
theorem expect_word (s : String) (rest : List Token) : expect s (word s :: rest) = .ok rest :=
  if_pos rfl

/-- A mark that is due is taken off the front. -/
theorem expect_sign (s : String) (rest : List Token) : expect s (sign s :: rest) = .ok rest :=
  if_pos rfl

/-- Marks are told apart by their characters. -/
theorem startsWith_sign (s mark : String) (rest : List Token) :
    startsWith mark (sign s :: rest) = decide (s = mark) := by
  rw [startsWith, decide_eq_decide]
  exact String.toList_inj

/-- A constant is read from a string that spells it. -/
theorem parseString_cons {value : String} {raw : List Char} (h : Spelling value.toList raw)
    (rest : List Token) : parseString (.string raw :: rest) = .ok (value, rest) := by
  rw [parseString, h.unescape_eq, String.ofList_toList]

/-- The tokens of a reference are read as the field, whatever follows. -/
theorem parseReference_append {field : String} {tokens : List Token}
    (h : Reference field tokens) (rest : List Token) :
    parseReference (tokens ++ rest) = .ok (field, rest) := by
  cases h with
  | point _ =>
      simp only [List.cons_append, List.nil_append, parseReference, expect_word, ok_bind]
      rw [startsWith_sign, if_neg (by decide), expect_sign, ok_bind]
      simp only [word, String.ofList_toList]
      rfl
  | brackets hspelling =>
      simp only [List.cons_append, List.nil_append, parseReference, expect_word, ok_bind]
      rw [startsWith_sign, if_pos (by decide), List.drop_one, List.tail_cons,
        parseString_cons hspelling, ok_bind, expect_sign, ok_bind]
      rfl

/-- The tokens of a test are read as the test, whatever follows. -/
theorem parseTest_append {test : Test} {tokens : List Token} (h : Comparison test tokens)
    (rest : List Token) : parseTest (tokens ++ rest) = .ok (test, rest) := by
  cases h with
  | equals href hspelling =>
      simp only [List.append_assoc, List.cons_append, List.nil_append, parseTest,
        parseReference_append href, ok_bind]
      rw [startsWith_sign, if_pos (by decide), List.drop_one, List.tail_cons,
        parseString_cons hspelling, ok_bind]
      rfl
  | includes href hspelling =>
      simp only [List.append_assoc, List.cons_append, List.nil_append, parseTest,
        parseReference_append href, ok_bind]
      rw [startsWith_sign, if_neg (by decide), expect_sign, ok_bind, expect_word, ok_bind,
        expect_sign, ok_bind, parseString_cons hspelling, ok_bind, expect_sign, ok_bind]
      rfl

/-- The tokens of a decision are read as the decision, whatever follows. Every decision takes at
least one token, and so fuel beyond their number is enough. -/
theorem parseTokens_append {decision : Decision} {tokens : List Token}
    (h : Derivation decision tokens) {fuel : Nat} (hfuel : tokens.length < fuel)
    (rest : List Token) : parseTokens fuel (tokens ++ rest) = .ok (decision, rest) := by
  induction h generalizing fuel rest with
  | literal hspelling =>
      cases fuel with
      | zero => cases hfuel
      | succ fuel =>
          simp only [List.cons_append, List.nil_append, parseTokens, hspelling.unescape_eq,
            String.ofList_toList]
  | @choose test yes no comparison yesTokens noTokens hcomparison _ _ ihyes ihno =>
      simp only [List.length_append, List.length_cons] at hfuel
      cases fuel with
      | zero => omega
      | succ fuel =>
          have htest := parseTest_append hcomparison
            (sign "?" :: (yesTokens ++ sign ":" :: (noTokens ++ rest)))
          -- The first token is a name, and so this is not read as a constant.
          obtain ⟨tail, rfl⟩ := hcomparison.head
          simp only [List.append_assoc, List.cons_append, word] at htest ⊢
          have hyes : yesTokens.length < fuel := by omega
          have hno : noTokens.length < fuel := by omega
          simp only [parseTokens, htest, ok_bind, expect_sign, ihyes hyes, ihno hno]
          rfl

/-! ## What is read is derived -/

/-- Only a token with the characters that are due is taken off the front. -/
theorem expect_eq_ok {due : String} {tokens rest : List Token}
    (h : expect due tokens = .ok rest) :
    ∃ token, tokens = token :: rest ∧ token.chars = due.toList := by
  cases tokens with
  | nil => cases h
  | cons first tokens =>
      rw [expect] at h
      split at h
      · next hchars =>
          cases h
          exact ⟨first, rfl, hchars⟩
      · cases h

/-- Reading goes on after a token that is due only if that token stands at the front. -/
theorem expect_bind_eq_ok {α : Type} {due : String} {tokens : List Token}
    {next : List Token → Except DecisionFault α} {a : α}
    (h : expect due tokens >>= next = .ok a) {token : Token} (htoken : token.WellFormed)
    (hdue : token.chars = due.toList) (hwell : ∀ other ∈ tokens, other.WellFormed) :
    ∃ rest, tokens = token :: rest ∧ (∀ other ∈ rest, other.WellFormed) ∧ next rest = .ok a := by
  obtain ⟨rest, hexpect, hnext⟩ := Result.bind_eq_ok.1 h
  obtain ⟨first, rfl, hchars⟩ := expect_eq_ok hexpect
  obtain ⟨hfirst, hrest⟩ := List.forall_mem_cons.1 hwell
  rw [hfirst.chars_inj htoken (hchars.trans hdue.symm)]
  exact ⟨rest, rfl, hrest, hnext⟩

/-- Reading goes on after a mark that is due only if that mark stands at the front. -/
theorem sign_bind_eq_ok {α : Type} {due : String} {tokens : List Token}
    {next : List Token → Except DecisionFault α} {a : α}
    (h : expect due tokens >>= next = .ok a) (hwell : ∀ token ∈ tokens, token.WellFormed)
    (hmark : due ∈ marks := by decide) :
    ∃ rest, tokens = sign due :: rest ∧ (∀ token ∈ rest, token.WellFormed) ∧ next rest = .ok a :=
  expect_bind_eq_ok h (wellFormed_sign due hmark) rfl hwell

/-- Only a text that begins with a mark starts with it. -/
theorem startsWith_eq_true {mark : String} {tokens : List Token}
    (h : startsWith mark tokens = true) (hwell : ∀ token ∈ tokens, token.WellFormed)
    (hmark : mark ∈ marks := by decide) :
    ∃ rest, tokens = sign mark :: rest ∧ ∀ token ∈ rest, token.WellFormed := by
  cases tokens with
  | nil => cases h
  | cons first tokens =>
      obtain ⟨hfirst, hrest⟩ := List.forall_mem_cons.1 hwell
      rw [startsWith, decide_eq_true_eq] at h
      rw [hfirst.chars_inj (wellFormed_sign mark hmark) h]
      exact ⟨tokens, rfl, hrest⟩

/-- Reading goes on after a constant only if a string that spells it stands at the front. -/
theorem parseString_bind_eq_ok {α : Type} {tokens : List Token}
    {next : String × List Token → Except DecisionFault α} {a : α}
    (h : parseString tokens >>= next = .ok a) (hwell : ∀ token ∈ tokens, token.WellFormed) :
    ∃ value raw rest, Spelling value.toList raw ∧ tokens = .string raw :: rest ∧
      (∀ token ∈ rest, token.WellFormed) ∧ next (value, rest) = .ok a := by
  obtain ⟨⟨value, rest⟩, hstring, hnext⟩ := Result.bind_eq_ok.1 h
  unfold parseString at hstring
  split at hstring
  · next raw tokens =>
      cases hstring
      obtain ⟨hfirst, hrest⟩ := List.forall_mem_cons.1 hwell
      exact ⟨_, raw, rest, hfirst.spelling, rfl, hrest, hnext⟩
  · cases hstring

/-- A field is read only from a reference to it. -/
theorem parseReference_eq_ok {field : String} {tokens rest : List Token}
    (h : parseReference tokens = .ok (field, rest))
    (hwell : ∀ token ∈ tokens, token.WellFormed) :
    ∃ front, Reference field front ∧ tokens = front ++ rest := by
  obtain ⟨afterName, rfl, hafterName, hnext⟩ :=
    expect_bind_eq_ok h wellFormed_answersName rfl hwell
  split at hnext
  · next hopen =>
      obtain ⟨inside, rfl, hinside⟩ := startsWith_eq_true hopen hafterName
      obtain ⟨value, raw, afterString, hspelling, rfl, hafterString, hclose⟩ :=
        parseString_bind_eq_ok hnext hinside
      obtain ⟨afterBracket, rfl, _, hdone⟩ := sign_bind_eq_ok hclose hafterString
      cases hdone
      exact ⟨_, .brackets hspelling, rfl⟩
  · next hopen =>
      obtain ⟨afterPoint, rfl, hafterPoint, hdone⟩ := sign_bind_eq_ok hnext hafterName
      split at hdone
      · next chars after =>
          cases hdone
          cases hafterPoint (.name chars) List.mem_cons_self with
          | name hchars =>
              rw [← String.toList_ofList (l := chars)] at hchars
              refine ⟨_, .point hchars, ?_⟩
              rw [word, word, String.toList_ofList]
              rfl
      · cases hdone

/-- A test is read only from its tokens. -/
theorem parseTest_eq_ok {test : Test} {tokens rest : List Token}
    (h : parseTest tokens = .ok (test, rest)) (hwell : ∀ token ∈ tokens, token.WellFormed) :
    ∃ front, Comparison test front ∧ tokens = front ++ rest := by
  obtain ⟨⟨field, afterField⟩, hfield, hnext⟩ := Result.bind_eq_ok.1 h
  obtain ⟨reference, hreference, rfl⟩ := parseReference_eq_ok hfield hwell
  have hafterField := (List.forall_mem_append.1 hwell).2
  dsimp only at hnext
  split at hnext
  · next hequals =>
      obtain ⟨inside, rfl, hinside⟩ := startsWith_eq_true hequals hafterField
      obtain ⟨value, raw, afterString, hspelling, rfl, _, hdone⟩ :=
        parseString_bind_eq_ok hnext hinside
      cases hdone
      exact ⟨_, .equals hreference hspelling, by simp⟩
  · next hequals =>
      obtain ⟨afterPoint, rfl, hafterPoint, hname⟩ := sign_bind_eq_ok hnext hafterField
      obtain ⟨afterName, rfl, hafterName, hopen⟩ :=
        expect_bind_eq_ok hname wellFormed_includes rfl hafterPoint
      obtain ⟨inside, rfl, hinside, hstring⟩ := sign_bind_eq_ok hopen hafterName
      obtain ⟨value, raw, afterString, hspelling, rfl, hafterString, hclose⟩ :=
        parseString_bind_eq_ok hstring hinside
      obtain ⟨afterClose, rfl, _, hdone⟩ := sign_bind_eq_ok hclose hafterString
      cases hdone
      exact ⟨_, .includes hreference hspelling, by simp⟩

/-- A decision is read only from its tokens. -/
theorem parseTokens_eq_ok {fuel : Nat} {decision : Decision} {tokens rest : List Token}
    (h : parseTokens fuel tokens = .ok (decision, rest))
    (hwell : ∀ token ∈ tokens, token.WellFormed) :
    ∃ front, Derivation decision front ∧ tokens = front ++ rest := by
  induction fuel generalizing decision tokens rest with
  | zero => cases h
  | succ fuel ih =>
      unfold parseTokens at h
      split at h
      · next raw after =>
          cases h
          have hspelling := (hwell (.string raw) List.mem_cons_self).spelling
          exact ⟨[.string raw], .literal hspelling, rfl⟩
      · obtain ⟨⟨test, afterTest⟩, htest, hnext⟩ := Result.bind_eq_ok.1 h
        obtain ⟨comparison, hcomparison, rfl⟩ := parseTest_eq_ok htest hwell
        have hafterTest := (List.forall_mem_append.1 hwell).2
        obtain ⟨inside, rfl, hinside, hyes⟩ := sign_bind_eq_ok hnext hafterTest
        obtain ⟨⟨yes, afterYes⟩, hyes, hcolon⟩ := Result.bind_eq_ok.1 hyes
        obtain ⟨yesTokens, hyesTokens, rfl⟩ := ih hyes hinside
        have hafterYes := (List.forall_mem_append.1 hinside).2
        obtain ⟨outside, rfl, houtside, hno⟩ := sign_bind_eq_ok hcolon hafterYes
        obtain ⟨⟨no, afterNo⟩, hno, hdone⟩ := Result.bind_eq_ok.1 hno
        obtain ⟨noTokens, hnoTokens, rfl⟩ := ih hno houtside
        cases hdone
        exact ⟨_, .choose hcomparison hyesTokens hnoTokens, by simp⟩

/-! ## Fuel -/

/-- Two readings in a row end with a fault only when one of them does. -/
theorem bind_ne_error {ε α β : Type} {first : Except ε α} {next : α → Except ε β} {fault : ε}
    (hfirst : first ≠ .error fault) (hnext : ∀ a, first = .ok a → next a ≠ .error fault) :
    first >>= next ≠ .error fault := by
  cases first with
  | error other =>
      intro h
      cases h
      exact hfirst rfl
  | ok a => exact hnext a rfl

/-- A token that is missing is no missing text. -/
theorem expect_ne_empty (due : String) (tokens : List Token) :
    expect due tokens ≠ .error .empty := by
  intro h
  unfold expect at h
  split at h
  · split at h <;> cases h
  · cases h

/-- A string that is missing is no missing text. -/
theorem parseString_ne_empty (tokens : List Token) : parseString tokens ≠ .error .empty := by
  intro h
  unfold parseString at h
  split at h <;> cases h

/-- A reference that cannot be read is no missing text. -/
theorem parseReference_ne_empty (tokens : List Token) :
    parseReference tokens ≠ .error .empty := by
  apply bind_ne_error (expect_ne_empty _ _)
  intro afterName _
  split
  · apply bind_ne_error (parseString_ne_empty _)
    intro _ _
    apply bind_ne_error (expect_ne_empty _ _)
    intro _ _ h
    cases h
  · apply bind_ne_error (expect_ne_empty _ _)
    intro _ _ h
    split at h <;> cases h

/-- A test that cannot be read is no missing text. -/
theorem parseTest_ne_empty (tokens : List Token) : parseTest tokens ≠ .error .empty := by
  apply bind_ne_error (parseReference_ne_empty _)
  intro afterField _
  dsimp only
  split
  · apply bind_ne_error (parseString_ne_empty _)
    intro _ _ h
    cases h
  · apply bind_ne_error (expect_ne_empty _ _)
    intro _ _
    apply bind_ne_error (expect_ne_empty _ _)
    intro _ _
    apply bind_ne_error (expect_ne_empty _ _)
    intro _ _
    apply bind_ne_error (parseString_ne_empty _)
    intro _ _
    apply bind_ne_error (expect_ne_empty _ _)
    intro _ _ h
    cases h

/-- The fuel never runs out: every decision that is read inside another one comes after at least
one token. -/
theorem parseTokens_ne_empty {fuel : Nat} {tokens : List Token} (hfuel : tokens.length < fuel)
    (hwell : ∀ token ∈ tokens, token.WellFormed) :
    parseTokens fuel tokens ≠ .error .empty := by
  induction fuel generalizing tokens with
  | zero => cases hfuel
  | succ fuel ih =>
      intro h
      unfold parseTokens at h
      split at h
      · cases h
      · revert h
        apply bind_ne_error (parseTest_ne_empty _)
        rintro ⟨test, afterTest⟩ htest
        obtain ⟨comparison, hcomparison, rfl⟩ := parseTest_eq_ok htest hwell
        have hafterTest := (List.forall_mem_append.1 hwell).2
        apply bind_ne_error (expect_ne_empty _ _)
        intro inside hmark
        obtain ⟨mark, rfl, _⟩ := expect_eq_ok hmark
        -- The mark after the test is gone, so the fuel that is left covers both branches.
        have hinside := (List.forall_mem_cons.1 hafterTest).2
        simp only [List.length_append, List.length_cons] at hfuel
        apply bind_ne_error (ih (by omega) hinside)
        rintro ⟨yes, afterYes⟩ hyes
        obtain ⟨yesTokens, _, rfl⟩ := parseTokens_eq_ok hyes hinside
        have hafterYes := (List.forall_mem_append.1 hinside).2
        apply bind_ne_error (expect_ne_empty _ _)
        intro outside hcolon
        obtain ⟨colon, rfl, _⟩ := expect_eq_ok hcolon
        simp only [List.length_append, List.length_cons] at hfuel
        apply bind_ne_error (ih (by omega) (List.forall_mem_cons.1 hafterYes).2)
        intro _ _ h
        cases h

/-! ## Texts -/

/-- The tokens that are found in a text are laid out in it. -/
theorem layout_of_scan {text : String} {tokens : List Token} (h : scan text = .ok tokens) :
    Layout tokens text.toList ∧ ∀ token ∈ tokens, token.WellFormed := by
  unfold scan at h
  split at h
  · cases h
  · exact layout_of_scanFrom h

/-- A text is read as a decision exactly when it is written in the grammar for it. -/
theorem parse_eq_ok_iff {text : String} {decision : Decision} :
    parse text = .ok decision ↔ Written decision text := by
  constructor
  · intro h
    obtain ⟨tokens, hscan, hnext⟩ := Result.bind_eq_ok.1 h
    obtain ⟨⟨found, rest⟩, htokens, hdone⟩ := Result.bind_eq_ok.1 hnext
    obtain ⟨hlayout, hwell⟩ := layout_of_scan hscan
    obtain ⟨front, hderivation, rfl⟩ := parseTokens_eq_ok htokens hwell
    dsimp only at hdone
    split at hdone
    · next hrest =>
        cases hdone
        obtain rfl := List.isEmpty_iff.1 hrest
        rw [List.append_nil] at hlayout
        exact ⟨front, hderivation, hlayout⟩
    · cases hdone
  · rintro ⟨tokens, hderivation, hlayout⟩
    have htokens := parseTokens_append hderivation (Nat.lt_succ_self tokens.length) []
    rw [List.append_nil] at htokens
    rw [parse, hderivation.scan hlayout, ok_bind, htokens, ok_bind]
    rfl

/-- Only the blank texts are rejected for want of tokens. -/
theorem parse_eq_empty_iff {text : String} :
    parse text = .error .empty ↔ Text.allBlank text = true := by
  rw [Text.allBlank, ← layout_nil_iff]
  constructor
  · intro h
    -- A text with tokens is rejected for another reason, if at all.
    by_contra hlayout
    revert h
    apply bind_ne_error
    · intro h
      unfold Token.scan at h
      split at h
      · next hscan => exact hlayout (layout_of_scanFrom hscan).1
      · exact scanFrom_ne_empty _ _ h
    · intro tokens hscan
      obtain ⟨_, hwell⟩ := layout_of_scan hscan
      apply bind_ne_error (parseTokens_ne_empty (Nat.lt_succ_self tokens.length) hwell)
      intro found _ h
      dsimp only at h
      split at h <;> cases h
  · intro h
    have hscan := scanFrom_of_layout h .nil 0
    rw [parse, Token.scan, hscan]
    rfl

/-- The reader accepts exactly the grammar. A text is read as a decision if and only if it is
written for it, which no text is for two decisions, and it is rejected with a fault if and only if
it is written for none. Rejection for want of tokens is kept for blank texts, so that no other
text is rejected because the reader gave up. -/
theorem parse_accepts_grammar (text : String) :
    (∀ decision, parse text = .ok decision ↔ Written decision text) ∧
    (∀ decision other, Written decision text → Written other text → decision = other) ∧
    ((∃ fault, parse text = .error fault) ↔ ∀ decision, ¬ Written decision text) ∧
    (parse text = .error .empty ↔ Text.allBlank text = true) := by
  refine ⟨fun decision => parse_eq_ok_iff, ?_, ?_, parse_eq_empty_iff⟩
  · intro decision other h hother
    have hread := parse_eq_ok_iff.2 h
    rw [parse_eq_ok_iff.2 hother] at hread
    cases hread
    rfl
  · constructor
    · rintro ⟨fault, hfault⟩ decision h
      rw [parse_eq_ok_iff.2 h] at hfault
      cases hfault
    · intro h
      cases hparse : parse text with
      | error fault => exact ⟨fault, rfl⟩
      | ok decision => exact absurd (parse_eq_ok_iff.1 hparse) (h decision)

end PagedForm.Decision
