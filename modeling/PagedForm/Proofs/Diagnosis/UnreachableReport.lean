import PagedForm.Proofs.Diagnosis.CycleReport

/-!
# Reported unreachable pages

A report lists the labels of exactly those pages that no walk along the edges reaches from the
first one. A run follows the edges, so when every page has its own label a run from the first page
never enters a page whose label is listed.
-/

namespace PagedForm

namespace Form

variable {form : Form}

/-- The labels of the pages in order. -/
def labels (form : Form) : List String :=
  form.pages.zipIdx.map fun entry => entry.1.label entry.2

/-- The label of a page by its place. -/
theorem getElem?_labels {index : Nat} {page : Page} (h : form.pages[index]? = some page) :
    form.labels[index]? = some (page.label index) := by
  simp [labels, h]

/-- The unreachable labels are those of the pages to which no walk leads from the first page. -/
theorem mem_unreachableLabels {label : String} :
    label ∈ form.unreachableLabels ↔
      ∃ index page, form.pages[index]? = some page ∧
        ¬ Relation.ReflTransGen form.Leads 0 index ∧ page.label index = label := by
  unfold unreachableLabels
  simp only [mem_sortedTexts, List.mem_filterMap, mem_unreachable, Option.map_eq_some_iff]
  constructor
  · rintro ⟨index, ⟨_, hunreached⟩, page, hpage, hlabel⟩
    exact ⟨index, page, hpage, hunreached, hlabel⟩
  · rintro ⟨index, page, hpage, hunreached, hlabel⟩
    obtain ⟨hindex, _⟩ := List.getElem?_eq_some_iff.1 hpage
    exact ⟨index, ⟨hindex, hunreached⟩, page, hpage, hlabel⟩

/-- Where every page has its own label, that of a page that can be reached is not listed. -/
theorem label_not_mem_unreachableLabels (hlabels : form.labels.Nodup) {index : Nat} {page : Page}
    (hpage : form.pages[index]? = some page)
    (hreached : Relation.ReflTransGen form.Leads 0 index) :
    page.label index ∉ form.unreachableLabels := by
  intro hmem
  obtain ⟨other, otherPage, hother, hunreached, hlabel⟩ := mem_unreachableLabels.1 hmem
  have hsame : form.labels[index]? = form.labels[other]? := by
    rw [getElem?_labels hpage, getElem?_labels hother, hlabel]
  obtain ⟨hplace, _⟩ := List.getElem?_eq_some_iff.1 (getElem?_labels hpage)
  have hindex : index = other := (List.getElem?_inj hplace hlabels).1 hsame
  exact hunreached (hindex ▸ hreached)

end Form

namespace Report

/-- Every report on a form with pages lists the labels of exactly those pages that no walk along
the edges reaches from the first one. So when every page has its own label, no run from the first
page enters a page whose label is listed. There is a report at least when the names are texts and
the fields can be checked. -/
theorem unreachable_reported_exactly {form : Form} (hpages : form.pages ≠ [])
    (settings : Settings) :
    (form.HasTextualNames → (∀ field ∈ form.fields, field.IsLintable settings) →
        ∃ report, ofForm form settings = .ok report) ∧
      ∀ report, ofForm form settings = .ok report →
        (∀ label, label ∈ report.unreachablePages ↔
          ∃ index page, form.pages[index]? = some page ∧
            ¬ Relation.ReflTransGen form.Leads 0 index ∧ page.label index = label) ∧
        (form.labels.Nodup → ∀ records, ∃ outcomes, form.run 0 records = .ok outcomes ∧
          outcomes.length = records.length ∧
          ∀ place ∈ 0 :: outcomes.filterMap Outcome.pageIndex?,
            ∃ (index : Nat) (page : Page), place = index ∧ form.pages[index]? = some page ∧
              page.label index ∉ report.unreachablePages) := by
  refine ⟨fun hnames hfields => (exists_ofForm hnames).2 hfields, fun report h => ?_⟩
  rw [unreachablePages_eq hpages h]
  refine ⟨fun label => Form.mem_unreachableLabels, fun hlabels records => ?_⟩
  have hfirst : 0 < form.pages.length := List.length_pos_iff.2 hpages
  obtain ⟨outcomes, places, hrun, hlength, _, hplaces, hwalk⟩ := Form.run_walks hfirst records
  refine ⟨outcomes, hrun, hlength, ?_⟩
  -- The run and the list speak of the same walks from the first page.
  have hentered : ∀ index ∈ 0 :: places, ∃ page, form.pages[index]? = some page ∧
      page.label index ∉ form.unreachableLabels := by
    intro index hindex
    have hplace := lt_of_mem_walk (fun _ _ hleads => hleads.lt.2) hfirst hwalk index hindex
    have hpage := List.getElem?_eq_getElem hplace
    exact ⟨_, hpage, Form.label_not_mem_unreachableLabels hlabels hpage
      (reflTransGen_of_mem_walk hwalk hindex)⟩
  intro place hplace
  rw [hplaces] at hplace
  change place ∈ (0 :: places).map Nat.cast at hplace
  obtain ⟨index, hindex, rfl⟩ := List.mem_map.1 hplace
  obtain ⟨page, hpage, hlabel⟩ := hentered index hindex
  exact ⟨index, page, rfl, hpage, hlabel⟩

/-- The second page of the form with a stray loop is listed, and no run enters it. -/
theorem unreachable_reported_stray_loop :
    strayLoop.pages ≠ [] ∧ ∃ report, ofForm strayLoop Settings.standard = .ok report ∧
      "Again" ∈ report.unreachablePages ∧ strayLoop.labels.Nodup ∧
        ∀ records, ∃ outcomes, strayLoop.run 0 records = .ok outcomes ∧
          (1 : Int) ∉ outcomes.filterMap Outcome.pageIndex? := by
  have hpages : strayLoop.pages ≠ [] := List.cons_ne_nil _ _
  obtain ⟨hexists, hexact⟩ := unreachable_reported_exactly hpages Settings.standard
  obtain ⟨report, hreport⟩ := hexists hasTextualNames_strayLoop isLintable_strayLoop
  obtain ⟨hlisted, hruns⟩ := hexact report hreport
  have hunreached : ¬ Relation.ReflTransGen strayLoop.Leads 0 1 := by
    intro hreached
    -- Both edges from the first page lead to the end of the form.
    have hends : ∀ edge ∈ strayLoop.edges, edge.source = 0 → edge.destination = none := by decide
    rcases Relation.ReflTransGen.cases_head hreached with heq | ⟨place, hleads, _⟩
    · cases heq
    · obtain ⟨edge, hedge, hsource, hplace⟩ := hleads
      rw [hends edge hedge hsource] at hplace
      cases hplace
  have hagain : "Again" ∈ report.unreachablePages :=
    (hlisted "Again").2 ⟨1, _, rfl, hunreached, rfl⟩
  have hlabels : strayLoop.labels.Nodup := by decide
  refine ⟨hpages, report, hreport, hagain, hlabels, fun records => ?_⟩
  obtain ⟨outcomes, hrun, _, hentered⟩ := hruns hlabels records
  refine ⟨outcomes, hrun, fun hmem => ?_⟩
  obtain ⟨index, page, hplace, hpage, hlabel⟩ := hentered 1 (List.mem_cons_of_mem _ hmem)
  obtain rfl : index = 1 := by omega
  cases hpage
  exact hlabel hagain

end Report

end PagedForm
