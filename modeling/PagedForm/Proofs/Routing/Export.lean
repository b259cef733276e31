import PagedForm.Example
import PagedForm.Proofs.Decision.RoundTrip
import PagedForm.Proofs.Navigation.Leaving

/-!
# The written form of a routing decides like the routing

The decision of a routing leaves the library as a text and is carried out there by whoever reads
it. `exported_decision_agrees` says that the text can be read, that what is read picks the target
that the routing selects, and that a page is left to that target unless it waits for its driver.
-/

namespace PagedForm.Routing

/-- A textual routing has a written form, and it is read back as the decision of the routing. -/
theorem parse_expression {routing : Option Routing} (h : ∀ r ∈ routing, r.IsTextual)
    (fields : List Field) :
    ∃ text, expression routing fields = .ok text ∧
      Decision.parse text = .ok (decision routing fields) := by
  obtain ⟨text, hrender, hwritten⟩ := (textual_decision h fields).written_render
  exact ⟨text, hrender, Decision.parse_eq_ok_iff.2 hwritten⟩

/-- For a form whose routings are textual, the written decision of every page can be read, and for
all answers it picks the target that the routing selects. The page is left to this target exactly
when it waits for no driver, and is blocked with the title of the driver that it waits for. -/
theorem exported_decision_agrees {form : Form} (htextual : form.HasTextualRoutings) {index : Nat}
    {page : Page} (hpage : form.pages[index]? = some page) :
    ∃ text decision,
      expression page.routing page.fields = .ok text ∧
      Decision.parse text = .ok decision ∧
      ∀ answers, ∃ target,
        decision.eval answers = .ok (.text target) ∧
        select page.routing page.fields answers = .ok (.text target) ∧
        (page.leave answers form.pages index =
            .ok (.ofTarget (.text target) (form.pages.map Page.name) index) ↔
          ∀ driver, ¬ page.WaitsFor answers driver) ∧
        ∀ driver, page.WaitsFor answers driver →
          page.leave answers form.pages index =
            .ok (.blocked ["\"" ++ driver.title.shown ++ "\" is required"]) := by
  have hrouting := htextual page (List.mem_of_getElem? hpage)
  obtain ⟨text, hexpression, hparse⟩ := parse_expression hrouting page.fields
  refine ⟨text, _, hexpression, hparse, ?_⟩
  intro answers
  obtain ⟨target, heval⟩ := (textual_decision hrouting page.fields).eval_eq_ok answers
  have hselect : select page.routing page.fields answers = .ok (.text target) := heval
  refine ⟨target, heval, hselect, ⟨?_, ?_⟩, ?_⟩
  · intro hleave driver hwaits
    rw [Page.leave_of_waitsFor hwaits, Except.ok.injEq] at hleave
    exact Outcome.ofTarget_ne_blocked _ _ _ _ hleave.symm
  · intro hfree
    exact Page.leave_of_not_waitsFor hfree hselect form.pages index
  · intro driver hwaits
    exact Page.leave_of_waitsFor hwaits form.pages index

/-- A page whose driver has to stand between brackets and whose constants need escapes. -/
def bracketedPage : Page :=
  Example.page 1 "Color" "" ""
    [Example.field "color\n" "Color"
      (Example.input (.radio (Example.options ["O'Brien", "\\"])) true)]
    (Example.route "color\n" "O'Brien" "Page \\ 2" Target.finish)

/-- The form of this page alone. -/
def bracketedForm : Form :=
  { Example.form with pages := [bracketedPage] }

/-- Brackets and escapes do not keep the decision from being read back. -/
theorem exported_decision_agrees_bracketed :
    bracketedForm.HasTextualRoutings ∧ bracketedForm.pages[0]? = some bracketedPage ∧
      ∃ text decision,
        expression bracketedPage.routing bracketedPage.fields = .ok text ∧
        Decision.parse text = .ok decision ∧
        ∀ answers,
          decision.eval answers = select bracketedPage.routing bracketedPage.fields answers := by
  have htextual : bracketedForm.HasTextualRoutings := by
    intro page hpage routing hrouting
    obtain rfl := List.mem_singleton.1 hpage
    cases hrouting
    refine ⟨?_, ?_, .inr ⟨_, rfl⟩⟩
    · intro branch hbranch
      obtain rfl := List.mem_singleton.1 hbranch
      exact ⟨_, rfl⟩
    · intro branch hbranch
      obtain rfl := List.mem_singleton.1 hbranch
      exact ⟨_, rfl⟩
  have hpage : bracketedForm.pages[0]? = some bracketedPage := rfl
  obtain ⟨text, decision, hexpression, hparse, hagrees⟩ :=
    exported_decision_agrees htextual hpage
  refine ⟨htextual, hpage, text, decision, hexpression, hparse, ?_⟩
  intro answers
  obtain ⟨target, heval, hselect, _⟩ := hagrees answers
  rw [heval, hselect]

end PagedForm.Routing
