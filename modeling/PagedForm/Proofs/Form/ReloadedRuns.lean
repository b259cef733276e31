import PagedForm.Navigation.Outcome
import PagedForm.Proofs.Form.Reloaded

/-!
# A form that was saved and read again runs as before

What becomes of a page shows the same fields, asks for the same answers and is left to the same
target. None of this depends on the types of its attributes.
-/

namespace PagedForm

/-! ## Routings -/

namespace Routing

/-- The fallback of a routing stays the same. -/
@[simp] theorem fallback_reloaded (routing : Routing) :
    routing.reloaded.fallback = routing.fallback := by
  show routing.defaultTarget.orNull.orElse (.text Target.next) =
    routing.defaultTarget.orElse (.text Target.next)
  unfold Value.orElse
  rw [Value.truthy_orNull]
  split
  · next htruthy => exact Value.orElse_of_truthy htruthy
  · rfl

/-- The driver of a routing becomes its driver among what the fields become. -/
theorem driverAmong?_reloaded (routing : Routing) (fields : List Field) :
    routing.reloaded.driverAmong? (fields.map Field.reloaded) =
      (routing.driverAmong? fields).map Field.reloaded := by
  obtain ⟨fieldId, branches, defaultTarget⟩ := routing
  unfold driverAmong? reloaded
  dsimp only
  split
  · rfl
  · split
    · rw [List.find?_map]
      rfl
    · rfl

/-- A routing that is not inert stays so, and no other becomes it. -/
theorem active?_reloaded (routing : Option Routing) (fields : List Field) :
    active? (routing.map Routing.reloaded) (fields.map Field.reloaded) =
      (active? routing fields).map fun found => (found.1.reloaded, found.2.reloaded) := by
  cases routing with
  | none => rfl
  | some r => simp [active?, driverAmong?_reloaded, Function.comp_def]

/-- The driver of a page's routing becomes its driver. -/
@[simp] theorem driver?_reloaded (routing : Option Routing) (fields : List Field) :
    driver? (routing.map Routing.reloaded) (fields.map Field.reloaded) =
      (driver? routing fields).map Field.reloaded := by
  simp [driver?, active?_reloaded, Function.comp_def]

/-- The decision of a routing stays the same. -/
@[simp] theorem decision_reloaded (routing : Option Routing) (fields : List Field) :
    decision (routing.map Routing.reloaded) (fields.map Field.reloaded) =
      decision routing fields := by
  unfold decision
  rw [active?_reloaded]
  cases active? routing fields with
  | none => rfl
  | some found =>
      obtain ⟨r, driver⟩ := found
      simp [comparatorFor]

end Routing

/-! ## Pages -/

namespace Page

variable (page : Page) (answers : Answers)

/-- A field of a page is found by the same value, as what it becomes. -/
@[simp] theorem field?_reloaded (id : Value) :
    page.reloaded.field? id = (page.field? id).map Field.reloaded := by
  unfold field?
  split
  · unfold fieldById?
    rw [fields_reloaded, List.find?_map]
    rfl
  · rfl

/-- What becomes of a field is visible when the field is. -/
@[simp] theorem isVisible_reloaded (field : Field) :
    page.reloaded.isVisible answers field.reloaded = page.isVisible answers field := by
  unfold isVisible
  rw [Field.truthy_dependsOn_reloaded, Field.showWhen_reloaded]
  split
  · rfl
  · next hdepends =>
      have htruthy : field.dependsOn.truthy = true := by
        simp only [Bool.or_eq_true, Bool.not_eq_true', not_or, Bool.not_eq_false] at hdepends
        exact hdepends.1
      rw [Field.dependsOn_reloaded htruthy, field?_reloaded]
      cases page.field? field.dependsOn with
      | none => rfl
      | some driver => simp [shows]

/-- The visible fields of what becomes of a page are what becomes of its visible fields. -/
theorem visibleFields_reloaded :
    page.reloaded.visibleFields answers = (page.visibleFields answers).map Field.reloaded := by
  simp [visibleFields, List.filter_map, Function.comp_def]

/-- The fields with the same ids are visible. -/
theorem visibleIds_reloaded :
    (page.reloaded.visibleFields answers).map Field.id =
      (page.visibleFields answers).map Field.id := by
  simp [visibleFields_reloaded]

/-- The same answers have to be given, with the same messages. -/
@[simp] theorem problems_reloaded : page.reloaded.problems answers = page.problems answers := by
  have hlacks (field : Field) :
      page.reloaded.lacksAnswer answers field.reloaded = page.lacksAnswer answers field := by
    simp [lacksAnswer]
  simp [problems, List.filter_map, Function.comp_def, hlacks, requiredMessage]

/-- A page is left to the same place. -/
theorem leave_reloaded (pages : List Page) (current : Int) :
    page.reloaded.leave answers (pages.map Page.reloaded) current =
      page.leave answers pages current := by
  have hnames : (pages.map Page.reloaded).map Page.name = pages.map Page.name := by
    simp
  have hselect : Routing.select page.reloaded.routing page.reloaded.fields answers =
      Routing.select page.routing page.fields answers := by
    simp [Routing.select]
  have hdriver : Routing.driver? page.reloaded.routing page.reloaded.fields =
      (Routing.driver? page.routing page.fields).map Field.reloaded :=
    Routing.driver?_reloaded page.routing page.fields
  unfold leave
  rw [hnames, hselect, hdriver]
  cases Routing.driver? page.routing page.fields with
  | none => rfl
  | some driver => rfl

/-- A page is left when nothing is missing, to the same place. -/
theorem advance_reloaded (pages : List Page) (current : Int) :
    page.reloaded.advance answers (pages.map Page.reloaded) current =
      page.advance answers pages current := by
  unfold advance
  rw [problems_reloaded, leave_reloaded]

end Page

end PagedForm
