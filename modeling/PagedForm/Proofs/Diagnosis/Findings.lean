import PagedForm.Diagnosis.Report
import PagedForm.Proofs.Diagnosis.CycleSearch
import PagedForm.Proofs.Diagnosis.Linting

/-!
# What a report holds

A report on a form with pages collects the findings in each page and puts them in words, and
`Report.ofForm_eq_ok` says so once. The findings on the graph of a form do not depend on how its
pages fare: `Report.cycle_eq` and `Report.unreachablePages_eq` say what they are in every report.
When the names of the pages are texts there is a report exactly when the fields can be checked.
-/

namespace PagedForm

/-- Sorting texts and dropping repetitions keeps the same texts. -/
theorem mem_sortedTexts {texts : List String} {text : String} :
    text ∈ sortedTexts texts ↔ text ∈ texts := by
  rw [sortedTexts, List.mem_mergeSort, List.mem_eraseDups]

/-- The ids of the pages are texts. -/
def Form.HasTextualIds (form : Form) : Prop :=
  ∀ page ∈ form.pages, ∃ s, page.id = .text s

/-- The names of the pages are texts. -/
def Form.HasTextualNames (form : Form) : Prop :=
  ∀ page ∈ form.pages, ∃ s, page.name = .text s

/-- The findings in a page, taken apart. -/
theorem PageFindings.ofPage_eq_ok {settings : Settings} {entry : Page × Nat}
    {findings : PageFindings} :
    ofPage settings entry = .ok findings ↔
      ∃ unnamed mistakes, Page.lacksText entry.1.name = .ok unnamed ∧
        entry.1.mistakes settings = .ok mistakes ∧
        findings =
          { label := entry.1.label entry.2
            unnamed := unnamed
            isEmpty := entry.1.fields.isEmpty
            duplicateIds := repeatedTexts entry.1.fieldIds
            dangling := entry.1.fields.filterMap entry.1.danglingDependency?
            mistakes := mistakes
            inert := entry.1.hasInertRouting } := by
  unfold ofPage
  simp only [Result.bind_eq_ok]
  constructor
  · rintro ⟨unnamed, hunnamed, mistakes, hmistakes, heq⟩
    cases heq
    exact ⟨unnamed, mistakes, hunnamed, hmistakes, rfl⟩
  · rintro ⟨unnamed, mistakes, hunnamed, hmistakes, rfl⟩
    exact ⟨unnamed, hunnamed, mistakes, hmistakes, rfl⟩

/-- There are findings in a page whose name is a text when its fields can be checked. -/
theorem PageFindings.exists_ofPage {settings : Settings} {page : Page} {index : Nat}
    (hname : ∃ s, page.name = .text s) :
    (∃ findings, ofPage settings (page, index) = .ok findings) ↔
      ∀ field ∈ page.fields, field.IsLintable settings := by
  rw [← Page.exists_mistakes]
  constructor
  · rintro ⟨findings, h⟩
    obtain ⟨_, mistakes, _, hmistakes, _⟩ := ofPage_eq_ok.1 h
    exact ⟨mistakes, hmistakes⟩
  · rintro ⟨mistakes, hmistakes⟩
    obtain ⟨unnamed, hunnamed⟩ := Page.exists_lacksText.2 fun _ => hname
    exact ⟨_, ofPage_eq_ok.2 ⟨unnamed, mistakes, hunnamed, hmistakes, rfl⟩⟩

namespace Form

variable {form : Form}

/-- Names that are texts are neither lists nor records. -/
theorem checkNames_of_textual (h : form.HasTextualNames) : form.checkNames = .ok () := by
  have hnone : ¬ form.pages.any (fun page =>
      page.name.list?.isSome || page.name.record?.isSome) = true := by
    rw [List.any_eq_true]
    rintro ⟨page, hpage, hname⟩
    obtain ⟨s, hs⟩ := h page hpage
    rw [hs] at hname
    cases hname
  rw [checkNames, if_neg hnone]

/-- The name of a page by its place. -/
theorem nameAt_eq {index : Nat} (h : index < form.pages.length) :
    form.nameAt index = form.pages[index].name := by
  rw [nameAt, List.getElem?_eq_getElem h]

/-- The nodes of a cycle are places of pages. -/
theorem lt_of_isCycle {cycle : List Nat} (h : form.graph.IsCycle cycle) :
    ∀ index ∈ cycle, index < form.pages.length := by
  obtain ⟨⟨hchain, hmoves, _⟩, _⟩ := h
  match cycle, hchain, hmoves with
  | first :: second :: rest, hchain, _ =>
      rw [links_graph] at hchain
      have hfirst := (List.isChain_cons_cons.1 hchain).1.lt.1
      exact lt_of_mem_walk (fun _ _ hleads => hleads.lt.2) hfirst hchain

/-- The warning about a cycle can be given when the names are texts. -/
theorem exists_cycleWarning (h : form.HasTextualNames) :
    ∃ closing, Report.cycleWarning form.cycleNames? = .ok closing := by
  rcases form.cycle_cases with ⟨cycle, hfound, hcycle⟩ | ⟨hnone, _⟩
  · have htexts : ∀ name ∈ cycle.map form.nameAt, ∃ s, name = .text s := by
      rw [List.forall_mem_map]
      intro index hindex
      have hplace := lt_of_isCycle hcycle index hindex
      rw [nameAt_eq hplace]
      exact h _ (List.getElem_mem hplace)
    rw [cycleNames?, hfound]
    exact Result.exists_map_eq_ok.2 (Value.exists_joinTexts htexts " -> ")
  · rw [cycleNames?, hnone]
    exact ⟨[], rfl⟩

end Form

namespace Report

variable {form : Form} {settings : Settings} {report : Report}

/-- A report on a form with pages collects the findings in the pages and puts them in words. -/
theorem ofForm_eq_ok (hpages : form.pages ≠ []) :
    ofForm form settings = .ok report ↔
      form.checkNames = .ok () ∧
      ∃ findings closing, form.pages.zipIdx.mapM (PageFindings.ofPage settings) = .ok findings ∧
        cycleWarning form.cycleNames? = .ok closing ∧
        report = { collect form findings with
          warnings := ((collect form findings).describe ++ closing).eraseDups } := by
  have hempty : ¬ form.pages.isEmpty = true := fun h => hpages (List.isEmpty_iff.1 h)
  unfold ofForm
  rw [if_neg hempty]
  simp only [Result.bind_eq_ok]
  constructor
  · rintro ⟨_, hcheck, findings, hfindings, closing, hclosing, heq⟩
    cases heq
    exact ⟨hcheck, findings, closing, hfindings, hclosing, rfl⟩
  · rintro ⟨hcheck, findings, closing, hfindings, hclosing, rfl⟩
    exact ⟨(), hcheck, findings, hfindings, closing, hclosing, rfl⟩

/-- The report on a form without pages. -/
theorem ofForm_nil (hpages : form.pages = []) : ofForm form settings = .ok (ofEmpty form) := by
  unfold ofForm
  rw [hpages]
  rfl

/-- Every report has the names along the cycle that the search finds. -/
theorem cycle_eq (h : ofForm form settings = .ok report) : report.cycle = form.cycleNames? := by
  by_cases hpages : form.pages = []
  · rw [ofForm_nil hpages] at h
    cases h
    have hlinks : form.graph.links = [] := by
      rw [Form.graph, Form.edges, hpages]
      rfl
    rw [Form.cycleNames?, PageGraph.cycle?, PageGraph.sources, hlinks]
    rfl
  · obtain ⟨_, findings, closing, _, _, rfl⟩ := (ofForm_eq_ok hpages).1 h
    rfl

/-- The report on a form with pages has the labels of its unreachable pages. -/
theorem unreachablePages_eq (hpages : form.pages ≠ []) (h : ofForm form settings = .ok report) :
    report.unreachablePages = form.unreachableLabels := by
  obtain ⟨_, findings, closing, _, _, rfl⟩ := (ofForm_eq_ok hpages).1 h
  rfl

/-- There is a report on a form whose names are texts exactly when its fields can be checked. -/
theorem exists_ofForm (hnames : form.HasTextualNames) :
    (∃ report, ofForm form settings = .ok report) ↔
      ∀ field ∈ form.fields, field.IsLintable settings := by
  -- The names and the cycle never stand in the way, so it comes down to the findings in the pages.
  have hfields : (∀ field ∈ form.fields, field.IsLintable settings) ↔
      ∃ findings, form.pages.zipIdx.mapM (PageFindings.ofPage settings) = .ok findings := by
    rw [Result.exists_mapM_eq_ok]
    simp only [Form.fields, List.mem_flatMap]
    constructor
    · rintro h ⟨page, index⟩ hentry
      have hpage := List.fst_mem_of_mem_zipIdx hentry
      exact (PageFindings.exists_ofPage (hnames page hpage)).2 fun field hfield =>
        h field ⟨page, hpage, hfield⟩
    · rintro h field ⟨page, hpage, hfield⟩
      obtain ⟨index, hentry⟩ := exists_mem_zipIdx hpage
      exact (PageFindings.exists_ofPage (hnames page hpage)).1 (h _ hentry) field hfield
  rw [hfields]
  by_cases hpages : form.pages = []
  · rw [hpages]
    exact ⟨fun _ => ⟨[], rfl⟩, fun _ => ⟨_, ofForm_nil hpages⟩⟩
  · obtain ⟨closing, hclosing⟩ := Form.exists_cycleWarning hnames
    constructor
    · rintro ⟨report, h⟩
      obtain ⟨_, findings, _, hfindings, _, _⟩ := (ofForm_eq_ok hpages).1 h
      exact ⟨findings, hfindings⟩
    · rintro ⟨findings, hfindings⟩
      exact ⟨_, (ofForm_eq_ok hpages).2 ⟨Form.checkNames_of_textual hnames, findings, closing,
        hfindings, hclosing, rfl⟩⟩

end Report

end PagedForm
