import PagedForm.Example
import PagedForm.Navigation.Visible
import PagedForm.Proofs.Routing.FirstMatch

/-!
# Fields are shown as targets are selected

What a field waits for and what a branch waits for are told apart from the answer of the driver in
two places, each with its own care for answers that are absent, empty or of the wrong shape.
`Page.isVisible_iff_meets` says that the first comes to the same question as the second, so that a
page never shows the fields of one answer and is left by the branch of another.
-/

namespace PagedForm

/-- A routing with branches is driven by the field that the page has under its field id. -/
theorem Routing.isDrivenBy_of_field? {routing : Routing} {page : Page} {driver : Field}
    (hbranches : routing.branches ≠ []) (hdriver : page.field? routing.fieldId = some driver)
    (hid : driver.id ≠ "") : routing.IsDrivenBy page.fields driver := by
  obtain ⟨_, hnamed⟩ := Page.field?_eq_some hdriver
  rw [hnamed] at hdriver
  obtain ⟨_, before, after, hfields, hbefore⟩ := List.find?_eq_some_iff_append.1 hdriver
  exact ⟨hbranches, hid, hnamed, before, after, hfields, by simpa using hbefore⟩

namespace Page

/-- An answer shows what waits for a text when it meets the text. -/
theorem shows_iff_meets {driver : Field} {answer : Value} {expected : String}
    (h : expected ≠ "") :
    shows driver answer (.text expected) = true ↔ driver.Meets answer (.text expected) := by
  constructor
  · intro hshows
    unfold shows at hshows
    split at hshows
    · cases hshows
    · split at hshows
      · next hbox =>
          split at hshows
          · exact .held hbox hshows
          · cases hshows
      · next hother =>
          rw [Value.same_text_iff.1 hshows]
          exact .equal expected (Bool.eq_false_iff.2 hother)
  · intro hmeets
    cases hmeets with
    | held hbox hholds => simpa [shows, isUnanswered, hbox] using hholds
    | equal _ hother => simp [shows, isUnanswered, hother, h]

variable {page : Page} {field driver : Field} {expected : String}

/-- A field that waits for an answer of its driver is visible when the answer meets what it waits
for. -/
theorem isVisible_iff_meets (hdriver : page.field? field.dependsOn = some driver)
    (hid : driver.id ≠ "") (hexpected : field.showWhen = .text expected) (hgiven : expected ≠ "")
    (answers : Answers) :
    page.isVisible answers field = true ↔
      driver.Meets (answers.get driver.id) (.text expected) := by
  obtain ⟨_, hnamed⟩ := field?_eq_some hdriver
  have hcomplete : ¬ (!field.dependsOn.truthy || !field.showWhen.truthy) = true := by
    simp [hnamed, hexpected, hid, hgiven]
  rw [isVisible, if_neg hcomplete, hdriver, hexpected]
  exact shows_iff_meets hgiven

/-- A routing with the driver of a field and a branch for what the field waits for selects the
branch while the field is visible, and its default target while the field is hidden. -/
theorem select_by_visibility (hdriver : page.field? field.dependsOn = some driver)
    (hid : driver.id ≠ "") (hexpected : field.showWhen = .text expected) (hgiven : expected ≠ "")
    {yes no : String} (hno : no ≠ "") (answers : Answers) :
    Routing.select (some ⟨field.dependsOn, [⟨.text expected, .text yes⟩], .text no⟩) page.fields
        answers =
      .ok (.text (if page.isVisible answers field then yes else no)) := by
  have hdriven : (⟨field.dependsOn, [⟨.text expected, .text yes⟩], .text no⟩ :
      Routing).IsDrivenBy page.fields driver :=
    Routing.isDrivenBy_of_field? (List.cons_ne_nil _ _) hdriver hid
  have hiff := isVisible_iff_meets hdriver hid hexpected hgiven answers
  by_cases hvisible : page.isVisible answers field = true
  · rw [if_pos hvisible]
    have hselects := Routing.Selects.branch rfl hdriven (List.nil_append _).symm
      (List.forall_mem_nil _) (hiff.1 hvisible)
    exact hselects.select_eq
  · rw [if_neg hvisible]
    have hselects := Routing.Selects.fallback rfl hdriven
      (List.forall_mem_singleton.2 fun hmeets => hvisible (hiff.2 hmeets))
    rw [hselects.select_eq, if_pos (by simp [hno])]

/-- Let a field depend on a field of its page, and let it wait for a text that is not empty. Then for
all answers it is visible exactly when a routing by the same field, with this text in its only
branch and another target by default, selects the target of the branch. The id of the driver is not
empty, as that of any field that can be defined. -/
theorem visible_iff_selected (hdriver : page.field? field.dependsOn = some driver)
    (hid : driver.id ≠ "") (hexpected : field.showWhen = .text expected) (hgiven : expected ≠ "")
    {yes no : String} (hno : no ≠ "") (hdiffer : yes ≠ no) (answers : Answers) :
    page.isVisible answers field = true ↔
      Routing.select (some ⟨field.dependsOn, [⟨field.showWhen, .text yes⟩], .text no⟩) page.fields
        answers = .ok (.text yes) := by
  rw [hexpected, select_by_visibility hdriver hid hexpected hgiven hno]
  split
  · next hvisible => simp [hvisible]
  · next hhidden => simp [hhidden, hdiffer.symm]

/-- The notes on why a site is not accessible are visible for the answer that leads to the page for
a failed visit. -/
theorem visible_iff_selected_access :
    ∃ field driver, field ∈ Example.jobDetails.fields ∧
      Example.jobDetails.field? field.dependsOn = some driver ∧ driver.id ≠ "" ∧
      field.showWhen = .text "No" ∧
      Example.jobDetails.isVisible [("siteAccess", .text "No")] field = true ∧
      Routing.select
        (some ⟨field.dependsOn, [⟨field.showWhen, .text "Access Problem"⟩], .text "Inspection"⟩)
        Example.jobDetails.fields [("siteAccess", .text "No")] = .ok (.text "Access Problem") := by
  have hvisible : Example.jobDetails.isVisible [("siteAccess", .text "No")]
      Example.jobDetails.fields[4] = true := rfl
  have hdriver : Example.jobDetails.field? Example.jobDetails.fields[4].dependsOn =
      some Example.jobDetails.fields[3] := rfl
  have hid : Example.jobDetails.fields[3].id ≠ "" := by decide
  refine ⟨_, _, List.getElem_mem _, hdriver, hid, rfl, hvisible, ?_⟩
  exact (visible_iff_selected hdriver hid rfl (by decide) (by decide) (by decide) _).1 hvisible

end Page

end PagedForm
