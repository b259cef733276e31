import PagedForm.Field.Answer

/-!
# Decisions

Routing is compiled into a small expression over the answers of a page. A decision is a constant
or a choice between two decisions by a test, and a test puts the answer of one field to a
constant. `Textual` singles out the decisions whose constants are texts; those have a written form
that can be read back.
-/

namespace PagedForm

/-- How an answer is put to a constant: it is that text, or it is a list that holds it. -/
inductive Comparator where
  | equals
  | includes
  deriving DecidableEq, Repr

/-- A test of one field's answer. -/
structure Test where
  comparator : Comparator
  field : String
  value : Value
  deriving Repr

/-- A decision. Besides constants and choices there are tests and answers that stand by
themselves, and `foreign` for what is no decision at all. -/
inductive Decision where
  | literal (value : Value)
  | test (t : Test)
  | choose (condition yes no : Decision)
  | answer (field : String)
  | foreign
  deriving Repr, Inhabited

namespace Decision

/-- A decision whose constants are texts and whose conditions are tests. -/
inductive Textual : Decision → Prop where
  | literal (s : String) : Textual (.literal (.text s))
  | choose (comparator : Comparator) (field value : String) {yes no : Decision} :
      Textual yes → Textual no →
      Textual (.choose (.test ⟨comparator, field, .text value⟩) yes no)

end Decision

/-- The answer passes the test. A list passes when it holds the constant; any other answer has to
be the text itself. -/
def Test.holds (test : Test) (answers : Answers) : Bool :=
  let answer := answers.get test.field
  match test.comparator with
  | .includes =>
      match answer with
      | .list items => test.value.isIn items
      | _ => false
  | .equals =>
      match answer with
      | .text s => (Value.text s).same test.value
      | _ => false

/-- The value that a decision picks. A condition that is no test cannot be evaluated. -/
def Decision.eval (answers : Answers) : Decision → Result Value
  | .literal value => .ok value
  | .test t => .ok (.bool (t.holds answers))
  | .choose (.test t) yes no => if t.holds answers then yes.eval answers else no.eval answers
  | .choose _ _ _ => .error .unsupported
  | .answer field => .ok (answers.get field)
  | .foreign => .error .mistyped

/-- A textual decision always picks a text. -/
theorem Decision.Textual.eval_eq_ok {decision : Decision} (h : decision.Textual)
    (answers : Answers) : ∃ s, decision.eval answers = .ok (.text s) := by
  induction h with
  | literal s => exact ⟨s, rfl⟩
  | choose comparator field value _ _ ihyes ihno =>
      simp only [eval]
      split
      · exact ihyes
      · exact ihno

end PagedForm
