import PagedForm.Proofs.Decision.Reading

/-!
# Written decisions are read back

What is written for a decision whose constants are texts is in the grammar, and so it is read back
as that decision. Nothing is asked of the ids and constants: `Spelling.escape` covers quotes and
backslashes, and an id that is no name stands between brackets.
-/

namespace PagedForm.Decision

open Token
open Result (ok_bind)

/-- A quoted text is the string token that spells it. -/
theorem layout_quote (s : String) : Layout [.string (escape s.toList)] (quote s) :=
  Layout.single (.string (escape s.toList))

/-- A mark may stand between two blanks. -/
theorem layout_between (s : String) : Layout [sign s] (' ' :: (s.toList ++ [' '])) :=
  .blank (by decide) (.token (sign s) (.blank (by decide) .nil))

/-- The answer of a field is written as a reference to it. -/
theorem layout_renderAnswer (field : String) :
    ∃ tokens, Reference field tokens ∧ Layout tokens (renderAnswer field) := by
  unfold renderAnswer
  split
  · next hname =>
      refine ⟨_, .point hname, ?_⟩
      exact (Layout.single (word answersName)).append
        ((Layout.single (sign ".")).append (Layout.single (word field)))
  · refine ⟨_, .brackets (Spelling.escape field.toList), ?_⟩
    have h := (Layout.single (word answersName)).append
      ((Layout.single (sign "[")).append ((layout_quote field).append (Layout.single (sign "]"))))
    simpa using h

/-- A test of a text is written as its tokens. -/
theorem layout_renderTest (comparator : Comparator) (field value : String) :
    ∃ chars tokens, renderTest ⟨comparator, field, .text value⟩ = .ok chars ∧
      Comparison ⟨comparator, field, .text value⟩ tokens ∧ Layout tokens chars := by
  obtain ⟨reference, hreference, hlayout⟩ := layout_renderAnswer field
  have hspelling := Spelling.escape value.toList
  cases comparator with
  | equals =>
      refine ⟨_, _, rfl, .equals hreference hspelling, ?_⟩
      have h := hlayout.append ((layout_between "===").append (layout_quote value))
      simpa using h
  | includes =>
      refine ⟨_, _, rfl, .includes hreference hspelling, ?_⟩
      have hcall := (Layout.single (sign ".")).append
        ((Layout.single (word "includes")).append (Layout.single (sign "(")))
      have h := hlayout.append
        (hcall.append ((layout_quote value).append (Layout.single (sign ")"))))
      simpa using h

/-- A textual decision is written as tokens that are derived for it. -/
theorem Textual.layout_renderChars {decision : Decision} (h : decision.Textual) :
    ∃ chars tokens, decision.renderChars = .ok chars ∧ Derivation decision tokens ∧
      Layout tokens chars := by
  induction h with
  | literal s => exact ⟨_, _, rfl, .literal (Spelling.escape s.toList), layout_quote s⟩
  | @choose comparator field value yes no _ _ ihyes ihno =>
      obtain ⟨condition, comparison, hcondition, hcomparison, hlayout⟩ :=
        layout_renderTest comparator field value
      obtain ⟨yesChars, yesTokens, hyes, hyesTokens, hyesLayout⟩ := ihyes
      obtain ⟨noChars, noTokens, hno, hnoTokens, hnoLayout⟩ := ihno
      refine ⟨condition ++ " ? ".toList ++ yesChars ++ " : ".toList ++ noChars, _, ?_,
        .choose hcomparison hyesTokens hnoTokens, ?_⟩
      · simp only [renderChars, hcondition, hyes, hno, ok_bind]
        rfl
      · have h := hlayout.append ((layout_between "?").append
          (hyesLayout.append ((layout_between ":").append hnoLayout)))
        simpa using h

/-- A textual decision has a written form, and that form is in the grammar. -/
theorem Textual.written_render {decision : Decision} (h : decision.Textual) :
    ∃ text, decision.render = .ok text ∧ Written decision text := by
  obtain ⟨chars, tokens, hchars, hderivation, hlayout⟩ := h.layout_renderChars
  refine ⟨String.ofList chars, ?_, tokens, hderivation, ?_⟩
  · rw [render, hchars]
    rfl
  · rwa [String.toList_ofList]

/-- Writing a textual decision succeeds, and reading what is written gives the decision back. -/
theorem parse_render {decision : Decision} (h : decision.Textual) :
    ∃ text, decision.render = .ok text ∧ parse text = .ok decision := by
  obtain ⟨text, hrender, hwritten⟩ := h.written_render
  exact ⟨text, hrender, parse_eq_ok_iff.2 hwritten⟩

/-- A choice inside the first branch of a choice needs no parentheses, and neither an id that ends
in a line feed nor an empty one is taken for a name. -/
theorem parse_render_nested :
    ∃ text,
      (Decision.choose (.test ⟨.includes, "color\n", .text "it's"⟩)
        (.choose (.test ⟨.equals, "", .text "\\"⟩) (.literal (.text "?")) (.literal (.text ":")))
        (.literal (.text "\\'"))).render = .ok text ∧
      parse text =
        .ok (.choose (.test ⟨.includes, "color\n", .text "it's"⟩)
          (.choose (.test ⟨.equals, "", .text "\\"⟩) (.literal (.text "?"))
            (.literal (.text ":")))
          (.literal (.text "\\'"))) :=
  parse_render
    (.choose .includes "color\n" "it's"
      (.choose .equals "" "\\" (.literal "?") (.literal ":")) (.literal "\\'"))

end PagedForm.Decision
