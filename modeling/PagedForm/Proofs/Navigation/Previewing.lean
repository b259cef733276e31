import PagedForm.Example
import PagedForm.Navigation.Preview
import PagedForm.Proofs.Navigation.Leaving

/-!
# What a preview promises

A preview that shows a target shows the one that the routing selects. Leaving the page leads there
unless the answer of the driver is an empty list: the preview takes that for an answer, while the
page still waits for one. There is no other way in which a preview is not kept.
-/

namespace PagedForm

/-- The driver of a routing is the field that the routing names. -/
theorem Routing.fieldId_of_driver? {routing : Routing} {fields : List Field} {driver : Field}
    (h : driver? (some routing) fields = some driver) : routing.fieldId = .text driver.id := by
  obtain ⟨found, hactive, rfl⟩ := Option.map_eq_some_iff.1 h
  obtain ⟨hrouting, _, hid⟩ := active?_eq_some hactive
  rwa [← Option.some.inj hrouting] at hid

/-- Of the answers that a preview does not take as absent, only an empty list is missing. -/
theorem isMissing_of_answered {answer : Value} (h : isUnanswered answer = false) :
    isMissing answer = true ↔ answer = .list [] := by
  constructor
  · intro hmissing
    unfold isMissing at hmissing
    split at hmissing
    · cases h
    · rw [isUnanswered, hmissing] at h
      cases h
    · rw [List.isEmpty_iff.1 hmissing]
    · cases hmissing
  · rintro rfl
    rfl

namespace Page

/-- The line of a preview that shows a target. -/
def targetLine (shown target : String) : String :=
  "\"" ++ shown ++ "\" -> \"" ++ target ++ "\""

/-- A line with a known answer shows one target. -/
theorem targetLine_inj {shown target other : String} :
    targetLine shown target = targetLine shown other ↔ target = other := by
  simp only [targetLine, String.append_left_inj, String.append_right_inj]

/-- A line that shows a target begins with a quotation mark. -/
theorem targetLine_ne {shown target text : String} (h : text.toList.head? ≠ some '"') :
    text ≠ targetLine shown target := by
  rintro rfl
  apply h
  simp [targetLine]

/-- The preview of a page shows a target, after the answer that its routing reads. -/
def PreviewsTarget (page : Page) (answers : Answers) (target : String) : Prop :=
  ∃ routing answer shown, page.routing = some routing ∧
    routedAnswer routing answers = .ok answer ∧ previewAnswer answer = .ok shown ∧
    page.preview answers = .ok (targetLine shown target)

variable {page : Page} {answers : Answers} {target : String}

/-- The preview of a page with a routing, for the answer that the routing reads and the target that
it selects. -/
theorem preview_of_routing {routing : Routing} {answer value : Value}
    (hrouting : page.routing = some routing) (hanswer : routedAnswer routing answers = .ok answer)
    (hselect : Routing.select page.routing page.fields answers = .ok value) :
    page.preview answers =
      if isUnanswered answer then .ok "No value selected"
      else if (page.field? routing.fieldId).isNone then .ok "Navigation field not found"
      else (previewAnswer answer).map fun shown => targetLine shown value.shown := by
  unfold preview
  rw [hrouting] at hselect ⊢
  simp only [hanswer, hselect, bind, Except.bind]
  cases previewAnswer answer <;> rfl

/-- A preview that shows a target has an answer before it, and shows what the routing selects. -/
theorem PreviewsTarget.selected (h : page.PreviewsTarget answers target) :
    ∃ routing answer value, page.routing = some routing ∧
      routedAnswer routing answers = .ok answer ∧ isUnanswered answer = false ∧
      Routing.select page.routing page.fields answers = .ok value ∧ value.shown = target := by
  obtain ⟨routing, answer, shown, hrouting, hanswer, hshown, hpreview⟩ := h
  obtain ⟨value, _, hselect⟩ := Routing.select_mem_targets page.routing page.fields answers
  rw [preview_of_routing hrouting hanswer hselect, hshown] at hpreview
  refine ⟨routing, answer, value, hrouting, hanswer, ?_⟩
  -- The other two lines do not begin with a quotation mark.
  split at hpreview
  · exact absurd (Except.ok.inj hpreview) (targetLine_ne (by decide))
  · next hanswered =>
      split at hpreview
      · exact absurd (Except.ok.inj hpreview) (targetLine_ne (by decide))
      · exact ⟨Bool.eq_false_iff.2 hanswered, hselect, targetLine_inj.1 (Except.ok.inj hpreview)⟩

/-- A page whose preview shows a target still waits for its driver exactly when the answer of the
driver is an empty list. -/
theorem PreviewsTarget.waitsFor_iff (h : page.PreviewsTarget answers target) {driver : Field} :
    page.WaitsFor answers driver ↔
      Routing.driver? page.routing page.fields = some driver ∧
        answers.get driver.id = .list [] := by
  obtain ⟨routing, answer, _, hrouting, hanswer, hanswered, _⟩ := h.selected
  refine and_congr_right fun hdriver => ?_
  rw [hrouting] at hdriver
  rw [routedAnswer, Routing.fieldId_of_driver? hdriver] at hanswer
  cases hanswer
  exact isMissing_of_answered hanswered

/-- When the attributes of its routing are texts, a page whose preview shows a target is left to
that target, unless the answer of its driver is an empty list. With an empty list it cannot be
left, whatever the preview shows. -/
theorem preview_kept_iff (htextual : ∀ routing ∈ page.routing, routing.IsTextual)
    (h : page.PreviewsTarget answers target) (pages : List Page) (current : Int) :
    (page.leave answers pages current =
        .ok (.ofTarget (.text target) (pages.map Page.name) current) ↔
      ∀ driver ∈ Routing.driver? page.routing page.fields, answers.get driver.id ≠ .list []) ∧
    ∀ driver ∈ Routing.driver? page.routing page.fields, answers.get driver.id = .list [] →
      page.leave answers pages current = .ok (.blocked [requiredMessage driver]) := by
  obtain ⟨_, _, value, _, _, _, hselect, hvalue⟩ := h.selected
  -- What a textual routing selects is a text, so it is the target as shown.
  obtain ⟨s, heval⟩ := (Routing.textual_decision htextual page.fields).eval_eq_ok answers
  cases hselect.symm.trans heval
  obtain rfl : s = target := hvalue
  have hblocked : ∀ driver ∈ Routing.driver? page.routing page.fields,
      answers.get driver.id = .list [] →
      page.leave answers pages current = .ok (.blocked [requiredMessage driver]) :=
    fun driver hdriver hempty =>
      leave_of_waitsFor (h.waitsFor_iff.2 ⟨hdriver, hempty⟩) pages current
  refine ⟨⟨?_, ?_⟩, hblocked⟩
  · intro hleave driver hdriver hempty
    rw [hblocked driver hdriver hempty] at hleave
    exact Outcome.ofTarget_ne_blocked _ _ _ _ (Except.ok.inj hleave).symm
  · intro hgiven
    refine leave_of_not_waitsFor (fun driver hwaits => ?_) hselect pages current
    obtain ⟨hdriver, hempty⟩ := h.waitsFor_iff.1 hwaits
    exact hgiven driver hdriver hempty

/-- With an electrical issue the page for what was found is left to the target that its preview
shows. -/
theorem preview_kept_electrical :
    (∀ routing ∈ Example.inspection.routing, routing.IsTextual) ∧
      Example.inspection.PreviewsTarget [("issuesFound", .texts ["Electrical"])]
        "Electrical Details" ∧
      Example.inspection.leave [("issuesFound", .texts ["Electrical"])] Example.form.pages 2 =
        .ok (.ofTarget (.text "Electrical Details") (Example.form.pages.map Page.name) 2) := by
  have htextual : ∀ routing ∈ Example.inspection.routing, routing.IsTextual := by
    rintro routing hrouting
    cases hrouting
    exact ⟨by simp, by simp, .inr ⟨_, rfl⟩⟩
  have hpreview : Example.inspection.PreviewsTarget [("issuesFound", .texts ["Electrical"])]
      "Electrical Details" :=
    ⟨_, _, "Electrical", rfl, rfl, rfl, rfl⟩
  refine ⟨htextual, hpreview, (preview_kept_iff htextual hpreview Example.form.pages 2).1.2 ?_⟩
  intro driver hdriver
  cases hdriver
  exact fun hempty => by cases hempty

/-- The page for what was found begins with an empty list as the answer of its driver. Its preview
then shows the last page as the target, and yet the page cannot be left. -/
theorem preview_not_kept_inspection :
    Example.inspection.PreviewsTarget (Answers.initial Example.inspection.fields) Target.last ∧
      Outcome.ofTarget (.text Target.last) (Example.form.pages.map Page.name) 2 = .skipped 4 ∧
      Example.inspection.leave (Answers.initial Example.inspection.fields) Example.form.pages 2 =
        .ok (.blocked ["\"Issues found\" is required"]) :=
  ⟨⟨_, _, "", rfl, rfl, rfl, rfl⟩, rfl, rfl⟩

end Page

end PagedForm
