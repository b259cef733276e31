import PagedForm.Example
import PagedForm.Proofs.Diagnosis.Findings

/-!
# Reported cycles

A report names a cycle exactly when the edges of the form have a closed walk, wherever in the form
it lies, and what it names are the pages along a closed walk that meets no other page twice.
-/

namespace PagedForm

namespace Form

variable {form : Form}

/-- A cycle of the graph is a closed walk along the edges. -/
theorem isClosedWalk_of_isCycle {cycle : List Nat} (h : form.graph.IsCycle cycle) :
    IsClosedWalk form.Leads cycle := by
  rw [← links_graph]
  exact h.closed

/-- The names along a cycle are those of the pages at its nodes. -/
theorem map_nameAt_cycle {cycle : List Nat} (h : form.graph.IsCycle cycle) :
    (cycle.map form.nameAt).map some =
      cycle.map fun index => form.pages[index]?.map Page.name := by
  rw [List.map_map]
  refine List.map_congr_left fun index hindex => ?_
  have hplace := lt_of_isCycle h index hindex
  rw [Function.comp_apply, nameAt_eq hplace, List.getElem?_eq_getElem hplace, Option.map_some]

/-- The names along a cycle are found exactly when there is a closed walk along the edges. -/
theorem isSome_cycleNames?_iff :
    form.cycleNames?.isSome = true ↔ ∃ walk, IsClosedWalk form.Leads walk := by
  rcases form.cycle_cases with ⟨cycle, hfound, hcycle⟩ | ⟨hnone, hacyclic⟩
  · rw [cycleNames?, hfound]
    exact ⟨fun _ => ⟨cycle, isClosedWalk_of_isCycle hcycle⟩, fun _ => rfl⟩
  · rw [cycleNames?, hnone]
    refine ⟨fun h => absurd h Bool.false_ne_true, ?_⟩
    rintro ⟨walk, hwalk⟩
    obtain ⟨index, hback⟩ := hwalk.exists_transGen
    exact absurd hback (hacyclic index)

end Form

namespace Report

/-- When the names of the pages are texts there is a report exactly when the fields can be
checked. Every report has a cycle exactly when there is a closed walk along the edges, and the
cycle it has is the names of the pages along a closed walk that meets no page twice, but for the
one at its ends. -/
theorem cycle_reported_exactly {form : Form} (hnames : form.HasTextualNames)
    (settings : Settings) :
    ((∃ report, ofForm form settings = .ok report) ↔
        ∀ field ∈ form.fields, field.IsLintable settings) ∧
      ∀ report, ofForm form settings = .ok report →
        (report.cycle.isSome = true ↔ ∃ walk, IsClosedWalk form.Leads walk) ∧
        ∀ names, report.cycle = some names →
          ∃ walk, IsClosedWalk form.Leads walk ∧ walk.dropLast.Nodup ∧
            names.map some = walk.map fun index => form.pages[index]?.map Page.name := by
  refine ⟨exists_ofForm hnames, fun report h => ?_⟩
  rw [cycle_eq h]
  refine ⟨Form.isSome_cycleNames?_iff, fun names hcycle => ?_⟩
  obtain ⟨cycle, hfound, rfl⟩ := Option.map_eq_some_iff.1 hcycle
  rcases form.cycle_cases with ⟨_, hsome, hcycle⟩ | ⟨hnone, _⟩
  · rw [hfound, Option.some.injEq] at hsome
    subst hsome
    exact ⟨cycle, Form.isClosedWalk_of_isCycle hcycle, hcycle.simple,
      Form.map_nameAt_cycle hcycle⟩
  · rw [hfound] at hnone
    cases hnone

/-- The question of a page: was that all? -/
def question : Field :=
  Example.field "all" "Was that all?" (Example.input (.radio (Example.options ["Yes", "No"])) true)

/-- A form that always ends after its first page; its second page leads back to itself. -/
def strayLoop : Form :=
  { Example.form with
    pages :=
      [Example.page 1 "Start" "" "" [question]
        (Example.route "all" "Yes" Target.finish Target.finish),
       Example.page 2 "Again" "" "" [question]
        (Example.route "all" "No" "Again" Target.finish)] }

/-- The pages of the form with a stray loop have names. -/
theorem hasTextualNames_strayLoop : strayLoop.HasTextualNames := by
  simp [Form.HasTextualNames, strayLoop, Example.page]

/-- The question on both of its pages can be checked. -/
theorem isLintable_strayLoop :
    ∀ field ∈ strayLoop.fields, field.IsLintable Settings.standard := by
  intro field hfield
  obtain rfl : field = question := by simpa [Form.fields, strayLoop, Example.page] using hfield
  exact ⟨fun _ => ⟨_, rfl⟩, fun spec hspec => by cases hspec⟩

/-- A page that leads to itself is reported although the form never comes to it. -/
theorem cycle_reported_stray_loop :
    strayLoop.HasTextualNames ∧
      ∃ report, ofForm strayLoop Settings.standard = .ok report ∧ report.cycle.isSome = true := by
  obtain ⟨hexists, hexact⟩ :=
    cycle_reported_exactly hasTextualNames_strayLoop Settings.standard
  obtain ⟨report, hreport⟩ := hexists.2 isLintable_strayLoop
  have hloop : strayLoop.Leads 1 1 := ⟨_, List.mem_of_getElem? (i := 2) rfl, rfl, by decide⟩
  have hwalk : IsClosedWalk strayLoop.Leads [1, 1] :=
    ⟨.cons_cons hloop (.singleton 1), by decide, rfl⟩
  exact ⟨hasTextualNames_strayLoop, report, hreport,
    (hexact report hreport).1.2 ⟨[1, 1], hwalk⟩⟩

end Report

end PagedForm
