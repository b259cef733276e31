import Mathlib.Data.List.Basic
import PagedForm.Example
import PagedForm.Navigation.Visible

/-!
# Ticking boxes

The answer to a checkbox is a list. Ticking more of its boxes hides nothing, and what it shows are
the fields that wait for one of the boxes just ticked: `Page.ticking_shows` compares the two
records for all fields at once. A field that depends on no field of the page, or on another one,
is visible for both records or for none.
-/

namespace PagedForm

/-- Two records of answers give lists for an id, the second of which holds all items of the first,
and do not differ otherwise. -/
structure Answers.TicksMore (id : String) (ticked more : List Value) (first second : Answers) :
    Prop where
  before : first.get id = .list ticked
  after : second.get id = .list more
  kept : ticked ⊆ more
  others : ∀ other ≠ id, Table.find? other first = Table.find? other second

/-- A list that holds more items holds a value if the shorter one does. -/
theorem Value.isIn_mono {value : Value} {items more : List Value} (h : items ⊆ more)
    (hin : value.isIn items = true) : value.isIn more = true := by
  obtain ⟨item, hitem, halike⟩ := List.any_eq_true.1 hin
  exact List.any_eq_true.2 ⟨item, h hitem, halike⟩

namespace Page

variable {page : Page} {box field : Field} {answers first second : Answers}
  {ticked more : List Value}

/-- A field waits for a box: it depends on the checkbox and on an answer that is not empty. -/
def WaitsForBox (box field : Field) : Prop :=
  field.dependsOn = .text box.id ∧ field.showWhen.truthy = true

/-- A field that waits for a box is visible exactly when the box is ticked. -/
theorem isVisible_of_waitsForBox (hbox : page.fieldById? box.id = some box)
    (hcheckbox : box.isCheckbox = true) (hid : box.id ≠ "") (hwaits : WaitsForBox box field)
    (hticked : answers.get box.id = .list ticked) :
    page.isVisible answers field = field.showWhen.isIn ticked := by
  obtain ⟨hdepends, hgiven⟩ := hwaits
  have hcomplete : ¬ (!field.dependsOn.truthy || !field.showWhen.truthy) = true := by
    simp [hdepends, hgiven, hid]
  have hdriver : page.field? field.dependsOn = some box := by
    rw [hdepends]
    exact hbox
  rw [isVisible, if_neg hcomplete, hdriver]
  simp [shows, isUnanswered, hcheckbox, hticked]

/-- A field that does not wait for a box of the checkbox is visible for both of two records that
differ in the answer to the checkbox only, or for none. -/
theorem isVisible_of_not_waitsForBox (hwaits : ¬ WaitsForBox box field)
    (hothers : ∀ other ≠ box.id, Table.find? other first = Table.find? other second) :
    page.isVisible first field = page.isVisible second field := by
  unfold isVisible
  split
  · rfl
  · next hcomplete =>
      simp only [Bool.or_eq_true, Bool.not_eq_true', not_or, Bool.not_eq_false] at hcomplete
      split
      · rfl
      · next driver hdriver =>
          -- The driver is another field, and its answer is the same in both records.
          have hnamed := (field?_eq_some hdriver).2
          have hother : driver.id ≠ box.id := fun heq =>
            hwaits ⟨hnamed.trans (congrArg Value.text heq), hcomplete.2⟩
          rw [Answers.get, Answers.get, hothers _ hother]

/-- Ticking more boxes hides no field. -/
theorem isVisible_ticked (hbox : page.fieldById? box.id = some box)
    (hcheckbox : box.isCheckbox = true) (hid : box.id ≠ "")
    (h : Answers.TicksMore box.id ticked more first second)
    (hvisible : page.isVisible first field = true) : page.isVisible second field = true := by
  by_cases hwaits : WaitsForBox box field
  · rw [isVisible_of_waitsForBox hbox hcheckbox hid hwaits h.before] at hvisible
    rw [isVisible_of_waitsForBox hbox hcheckbox hid hwaits h.after]
    exact Value.isIn_mono h.kept hvisible
  · rw [← isVisible_of_not_waitsForBox hwaits h.others]
    exact hvisible

/-- Ticking more boxes of the first field with an id shows fields and hides none: the visible
fields stay visible in their order, and any field becomes visible exactly when it depends on that
field and waits for something that the second list holds and the first one does not. The id is not
empty, as that of any field that can be defined. -/
theorem ticking_shows (hbox : page.fieldById? box.id = some box)
    (hcheckbox : box.isCheckbox = true) (hid : box.id ≠ "")
    (h : Answers.TicksMore box.id ticked more first second) :
    (∀ field, page.isVisible first field = true → page.isVisible second field = true) ∧
      (page.visibleFields first).Sublist (page.visibleFields second) ∧
      ∀ field, page.isVisible second field = true ∧ page.isVisible first field = false ↔
        field.dependsOn = .text box.id ∧ field.showWhen.truthy = true ∧
          field.showWhen.isIn more = true ∧ field.showWhen.isIn ticked = false := by
  have hmono (field : Field) : page.isVisible first field = true →
      page.isVisible second field = true := isVisible_ticked hbox hcheckbox hid h
  refine ⟨hmono, List.monotone_filter_right page.fields hmono, fun field => ?_⟩
  by_cases hwaits : WaitsForBox box field
  · rw [isVisible_of_waitsForBox hbox hcheckbox hid hwaits h.before,
      isVisible_of_waitsForBox hbox hcheckbox hid hwaits h.after]
    exact ⟨fun hshown => ⟨hwaits.1, hwaits.2, hshown⟩, fun hshown => hshown.2.2⟩
  · rw [isVisible_of_not_waitsForBox hwaits h.others]
    constructor
    · rintro ⟨hvisible, hhidden⟩
      rw [hvisible] at hhidden
      cases hhidden
    · rintro ⟨hdepends, hgiven, _⟩
      exact absurd ⟨hdepends, hgiven⟩ hwaits

/-- The page for what was found, with a question about plumbing. -/
def plumbingPage : Page :=
  { Example.inspection with
    fields := Example.inspection.fields ++
      [Example.shownWhen (Example.field "leak" "Where is the leak?"
        (Example.input (.text .null) true)) "issuesFound" "Plumbing"] }

/-- The question about plumbing is shown when that box is ticked as well. -/
theorem ticking_shows_leak :
    ∃ box leak, plumbingPage.fieldById? box.id = some box ∧ box.isCheckbox = true ∧ box.id ≠ "" ∧
      Answers.TicksMore box.id [.text "Electrical"] [.text "Plumbing", .text "Electrical"]
        [("issuesFound", .texts ["Electrical"])]
        [("issuesFound", .texts ["Plumbing", "Electrical"])] ∧
      leak ∈ plumbingPage.fields ∧
      plumbingPage.isVisible [("issuesFound", .texts ["Plumbing", "Electrical"])] leak = true ∧
      plumbingPage.isVisible [("issuesFound", .texts ["Electrical"])] leak = false := by
  have hbox : plumbingPage.fieldById? Example.inspection.fields[0].id =
      some Example.inspection.fields[0] := rfl
  have hticks : Answers.TicksMore Example.inspection.fields[0].id [.text "Electrical"]
      [.text "Plumbing", .text "Electrical"] [("issuesFound", .texts ["Electrical"])]
      [("issuesFound", .texts ["Plumbing", "Electrical"])] := by
    refine ⟨rfl, rfl, List.subset_cons_self _ _, fun other hother => ?_⟩
    have hkey : "issuesFound" ≠ other := hother.symm
    simp [Table.find?, hkey]
  have hid : Example.inspection.fields[0].id ≠ "" := by decide
  obtain ⟨_, _, hshown⟩ := ticking_shows hbox rfl hid hticks
  refine ⟨_, plumbingPage.fields[2], hbox, rfl, hid, hticks, List.getElem_mem _, ?_⟩
  exact (hshown _).2 ⟨rfl, rfl, rfl, rfl⟩

end Page

end PagedForm
