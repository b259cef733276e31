import PagedForm.Navigation.Outcome
import PagedForm.Proofs.Routing.Selection

/-!
# Leaving a page

What leaving a page can lead to, said once: the page waits for its driver, or the target that the
routing selects is turned into an outcome. There is no third case and no fault.
-/

namespace PagedForm

namespace Page

/-- The routing of a page waits for the answer of this driver. -/
def WaitsFor (page : Page) (answers : Answers) (driver : Field) : Prop :=
  Routing.driver? page.routing page.fields = some driver ∧
    isMissing (answers.get driver.id) = true

variable {page : Page} {answers : Answers}

/-- A page whose driver is answered waits for nothing. -/
theorem not_waitsFor {driver : Field}
    (hdriver : Routing.driver? page.routing page.fields = some driver)
    (hanswered : isMissing (answers.get driver.id) = false) (other : Field) :
    ¬ page.WaitsFor answers other := by
  rintro ⟨hother, hmissing⟩
  obtain rfl : driver = other := Option.some.inj (hdriver.symm.trans hother)
  rw [hanswered] at hmissing
  cases hmissing

/-- A page that waits for a driver cannot be left. -/
theorem leave_of_waitsFor {driver : Field} (h : page.WaitsFor answers driver)
    (pages : List Page) (current : Int) :
    page.leave answers pages current = .ok (.blocked [requiredMessage driver]) := by
  obtain ⟨hdriver, hmissing⟩ := h
  simp only [leave, hdriver, if_pos hmissing]

/-- A page that waits for no driver is left to the selected target. -/
theorem leave_of_not_waitsFor (h : ∀ driver, ¬ page.WaitsFor answers driver) {target : Value}
    (htarget : Routing.select page.routing page.fields answers = .ok target)
    (pages : List Page) (current : Int) :
    page.leave answers pages current =
      .ok (.ofTarget target (pages.map Page.name) current) := by
  cases hdriver : Routing.driver? page.routing page.fields with
  | none =>
      rw [Routing.select_of_no_driver hdriver] at htarget
      cases htarget
      simp only [leave, hdriver]
  | some driver =>
      have hgiven : ¬ isMissing (answers.get driver.id) = true := fun hmissing =>
        h driver ⟨hdriver, hmissing⟩
      simp only [leave, hdriver, if_neg hgiven, htarget]
      rfl

/-- A page is blocked by the driver that it waits for, or left to a target of its routing. -/
theorem leave_cases (page : Page) (answers : Answers) (pages : List Page) (current : Int) :
    (∃ driver, page.WaitsFor answers driver ∧
      page.leave answers pages current = .ok (.blocked [requiredMessage driver])) ∨
    ((∀ driver, ¬ page.WaitsFor answers driver) ∧
      ∃ target ∈ Routing.targets page.routing page.fields,
        Routing.select page.routing page.fields answers = .ok target ∧
        page.leave answers pages current =
          .ok (.ofTarget target (pages.map Page.name) current)) := by
  by_cases h : ∃ driver, page.WaitsFor answers driver
  · obtain ⟨driver, hwaits⟩ := h
    exact .inl ⟨driver, hwaits, leave_of_waitsFor hwaits pages current⟩
  · rw [not_exists] at h
    obtain ⟨target, hmem, hselect⟩ :=
      Routing.select_mem_targets page.routing page.fields answers
    exact .inr ⟨h, target, hmem, hselect, leave_of_not_waitsFor h hselect pages current⟩

end Page

/-- The outcome of a target is never that answers are missing. -/
theorem Outcome.ofTarget_ne_blocked (target : Value) (names : List Value) (current : Int)
    (messages : List String) : ofTarget target names current ≠ .blocked messages := by
  unfold ofTarget
  intro h
  dsimp only at h
  split at h
  · split at h <;> cases h
  · split at h
    · cases h
    · split at h
      · cases h
      · split at h <;> cases h

end PagedForm
