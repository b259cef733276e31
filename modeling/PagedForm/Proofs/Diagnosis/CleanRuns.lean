import PagedForm.Example
import PagedForm.Proofs.Diagnosis.CleanReport

/-!
# Runs of clean forms

A run of a form whose report is clean always knows where to go: every target that it meets names
one page, and since it follows edges that have no cycle it never comes back to a page.
-/

namespace PagedForm

namespace Form

variable {form : Form}

/-- A run of a well linked form finds the page of every target. -/
theorem IsWellLinked.not_notFound (hform : form.IsWellLinked) {outcome : Outcome} {source : Nat}
    (h : form.Allows source outcome) (name : Value) : outcome ≠ .notFound name := by
  rintro rfl
  obtain ⟨edge, hedge, hdangling⟩ := h.dangling
  rw [hform.resolved edge hedge] at hdangling
  cases hdangling

/-- A jump within a well linked form goes to the only page with the name. -/
theorem IsWellLinked.jump_unique (hform : form.IsWellLinked) {source index : Nat} {name : Value}
    (h : form.Allows source (.jump index name)) (place : Nat) :
    form.pages[place]?.map Page.name = some name ↔ place = index := by
  have hfound := h.name_of_jump
  obtain ⟨hindex, _⟩ := List.getElem?_eq_some_iff.1 hfound
  rw [← List.getElem?_map]
  constructor
  · intro hplace
    have hsame : index = place :=
      (List.getElem?_inj hindex hform.distinct).1 (hfound.trans hplace.symm)
    exact hsame.symm
  · rintro rfl
    exact hfound

/-- A walk along the edges of a well linked form meets no page twice, and has fewer moves than the
form has pages. -/
theorem IsWellLinked.walk_nodup (hform : form.IsWellLinked) {start : Nat} {places : List Nat}
    (hstart : start < form.pages.length) (hwalk : (start :: places).IsChain form.Leads) :
    (start :: places).Nodup ∧ places.length ≤ form.pages.length - 1 := by
  have hnodup := nodup_of_isChain hform.acyclic hwalk
  have hinside := lt_of_mem_walk (fun _ _ hleads => hleads.lt.2) hstart hwalk
  have hlength := length_le_of_nodup hnodup hinside
  rw [List.length_cons] at hlength
  exact ⟨hnodup, Nat.le_sub_one_of_lt hlength⟩

end Form

namespace Report

/-- A run of a form whose report is clean gives an outcome for every record of answers. It finds a
page for every target, it enters no page twice, so that it has fewer moves than there are pages,
and every jump goes to the only page with the name. -/
theorem clean_form_runs_safely {form : Form} {settings : Settings} {report : Report}
    (h : ofForm form settings = .ok report) (hclean : report.isClean = true) {start : Nat}
    (hstart : start < form.pages.length) (records : List Answers) :
    ∃ outcomes, form.run start records = .ok outcomes ∧ outcomes.length = records.length ∧
      (∀ name, .notFound name ∉ outcomes) ∧
      ((start : Int) :: outcomes.filterMap Outcome.pageIndex?).Nodup ∧
      (outcomes.filterMap Outcome.pageIndex?).length ≤ form.pages.length - 1 ∧
      ∀ index name, .jump index name ∈ outcomes →
        ∀ place : Nat, form.pages[place]?.map Page.name = some name ↔ place = index := by
  have hpages : form.pages ≠ [] := List.ne_nil_of_length_pos (Nat.zero_lt_of_lt hstart)
  have hform := isWellLinked_of_isClean hpages h hclean
  obtain ⟨outcomes, places, hrun, hlength, hallowed, hplaces, hwalk⟩ :=
    Form.run_walks hstart records
  obtain ⟨hnodup, hmoves⟩ := hform.walk_nodup hstart hwalk
  -- What is said of outcomes follows from the edges that allow them, the rest from the walk.
  refine ⟨outcomes, hrun, hlength, ?_, ?_, ?_, ?_⟩
  · intro name hmem
    obtain ⟨source, hallows⟩ := hallowed _ hmem
    exact hform.not_notFound hallows name rfl
  · rw [hplaces, ← List.map_cons]
    exact hnodup.map fun _ _ => Int.ofNat_inj.1
  · rw [hplaces, List.length_map]
    exact hmoves
  · intro index name hmem
    obtain ⟨source, hallows⟩ := hallowed _ hmem
    exact hform.jump_unique hallows

/-- The report on the example form is clean, and its runs from the first page are safe. -/
theorem clean_form_runs_safely_example :
    ∃ report, ofForm Example.form Settings.standard = .ok report ∧ report.isClean = true ∧
      0 < Example.form.pages.length ∧
      ∀ records, ∃ outcomes, Example.form.run (0 : Nat) records = .ok outcomes ∧
        (∀ name, .notFound name ∉ outcomes) ∧
        (outcomes.filterMap Outcome.pageIndex?).length ≤ Example.form.pages.length - 1 := by
  have hclean : (ofForm Example.form Settings.standard).toOption.any isClean = true := by
    decide +kernel
  have hstart : 0 < Example.form.pages.length := by decide
  cases hreport : ofForm Example.form Settings.standard with
  | error fault =>
      rw [hreport] at hclean
      cases hclean
  | ok report =>
      rw [hreport] at hclean
      refine ⟨report, rfl, hclean, hstart, fun records => ?_⟩
      obtain ⟨outcomes, hrun, _, hfound, _, hmoves, _⟩ :=
        clean_form_runs_safely hreport hclean hstart records
      exact ⟨outcomes, hrun, hfound, hmoves⟩

end Report

end PagedForm
