import PagedForm.Proofs.Decision.Lexical

/-!
# The grammar of written decisions

`Derivation decision tokens` says that the tokens are derived for the decision, rule by rule:

    decision   := comparison ? decision : decision | STRING
    comparison := reference === STRING | reference . includes ( STRING )
    reference  := formData . NAME | formData [ STRING ]

and `Written decision text` that such tokens are laid out in the text. The tokens of a derivation
are scannable, and so the scanner finds them in any layout.
-/

namespace PagedForm.Decision

open Token

/-- The tokens that refer to the answer of a field. -/
inductive Reference : String → List Token → Prop where
  | point {field : String} :
      isName field.toList = true → Reference field [word answersName, sign ".", word field]
  | brackets {field : String} {raw : List Char} :
      Spelling field.toList raw →
      Reference field [word answersName, sign "[", .string raw, sign "]"]

/-- The tokens of a test. -/
inductive Comparison : Test → List Token → Prop where
  | equals {field value : String} {reference : List Token} {raw : List Char} :
      Reference field reference → Spelling value.toList raw →
      Comparison ⟨.equals, field, .text value⟩ (reference ++ [sign "===", .string raw])
  | includes {field value : String} {reference : List Token} {raw : List Char} :
      Reference field reference → Spelling value.toList raw →
      Comparison ⟨.includes, field, .text value⟩
        (reference ++ [sign ".", word "includes", sign "(", .string raw, sign ")"])

/-- The tokens of a decision. -/
inductive Derivation : Decision → List Token → Prop where
  | literal {value : String} {raw : List Char} :
      Spelling value.toList raw → Derivation (.literal (.text value)) [.string raw]
  | choose {test : Test} {yes no : Decision} {comparison yesTokens noTokens : List Token} :
      Comparison test comparison → Derivation yes yesTokens → Derivation no noTokens →
      Derivation (.choose (.test test) yes no)
        (comparison ++ sign "?" :: (yesTokens ++ sign ":" :: noTokens))

/-- The text is a layout of tokens that are derived for the decision. -/
def Written (decision : Decision) (text : String) : Prop :=
  ∃ tokens, Derivation decision tokens ∧ Layout tokens text.toList

/-! ## Tokens of derivations -/

/-- The marks of the grammar. -/
def marks : List String := ["?", ":", "(", ")", ".", "[", "]", "==="]

/-- Every mark of the grammar is well formed. -/
theorem wellFormed_sign (s : String) (h : s ∈ marks := by decide) : (sign s).WellFormed := by
  simp only [marks, List.mem_cons, List.not_mem_nil, or_false] at h
  rcases h with rfl | rfl | rfl | rfl | rfl | rfl | rfl | rfl
  case inr.inr.inr.inr.inr.inr.inr => exact .equality
  all_goals exact .mark (by decide)

/-- The name of the answers is a name. -/
theorem wellFormed_answersName : (word answersName).WellFormed :=
  .name (by decide)

/-- The word for a test of a list is a name. -/
theorem wellFormed_includes : (word "includes").WellFormed :=
  .name (by decide)

/-- The tokens of a reference are scannable. -/
theorem Reference.scannable {field : String} {tokens : List Token} (h : Reference field tokens) :
    Scannable tokens := by
  have hanswers := Scannable.single wellFormed_answersName
  cases h with
  | point hname => exact hanswers.sign_append (wellFormed_sign ".") (.single (.name hname))
  | brackets hspelling =>
      have hstring := Scannable.single (.string hspelling)
      have hclosed := hstring.sign_append (wellFormed_sign "]") .nil
      exact hanswers.sign_append (wellFormed_sign "[") hclosed

/-- The tokens of a test are scannable. -/
theorem Comparison.scannable {test : Test} {tokens : List Token} (h : Comparison test tokens) :
    Scannable tokens := by
  cases h with
  | equals hreference hspelling =>
      have hstring := Scannable.single (.string hspelling)
      exact hreference.scannable.sign_append (wellFormed_sign "===") hstring
  | includes hreference hspelling =>
      have hstring := Scannable.single (.string hspelling)
      have hclosed := hstring.sign_append (wellFormed_sign ")") .nil
      have hcall := (Scannable.single wellFormed_includes).sign_append (wellFormed_sign "(") hclosed
      exact hreference.scannable.sign_append (wellFormed_sign ".") hcall

/-- The tokens of a decision are scannable. -/
theorem Derivation.scannable {decision : Decision} {tokens : List Token}
    (h : Derivation decision tokens) : Scannable tokens := by
  induction h with
  | literal hspelling => exact .single (.string hspelling)
  | choose hcomparison _ _ ihyes ihno =>
      have hbranches := ihyes.sign_append (wellFormed_sign ":") ihno
      exact hcomparison.scannable.sign_append (wellFormed_sign "?") hbranches

/-- A test begins with the name of the answers. -/
theorem Comparison.head {test : Test} {tokens : List Token} (h : Comparison test tokens) :
    ∃ rest, tokens = word answersName :: rest := by
  cases h with
  | equals href _ => cases href <;> exact ⟨_, rfl⟩
  | includes href _ => cases href <;> exact ⟨_, rfl⟩

/-- The tokens of a decision are found in a text that they are laid out in. -/
theorem Derivation.scan {decision : Decision} {tokens : List Token}
    (h : Derivation decision tokens) {text : String} (hlayout : Layout tokens text.toList) :
    Token.scan text = .ok tokens := by
  unfold Token.scan
  rw [scanFrom_of_layout hlayout h.scannable]
  cases h with
  | literal => rfl
  | choose hcomparison _ _ =>
      obtain ⟨rest, rfl⟩ := hcomparison.head
      rfl

end PagedForm.Decision
