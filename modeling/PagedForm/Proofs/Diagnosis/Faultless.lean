import PagedForm.Proofs.Diagnosis.CleanReport
import PagedForm.Proofs.Diagnosis.CycleReport
import PagedForm.Proofs.Diagnosis.FiledFindings
import PagedForm.Proofs.Diagnosis.UnreachableReport

/-!
# Forms without faults

`Form.IsFaultless` says what an author can expect of a form about which nothing is reported, in
terms of its pages, its targets and the walks along its edges. Findings may take over the place of
others under a label, and repeated warnings are dropped, but none of this makes a finding vanish
together with all the others of its sort: a report is clean exactly when the form has no fault.
-/

namespace PagedForm

/-! ## Faultless pages and forms -/

/-- A page has no fault of its own: its name is a text that is not blank, it has fields with
different ids, its fields depend on fields that it has, there are no mistakes in them, and a
routing with branches has a driver. -/
structure Page.IsFaultless (settings : Settings) (page : Page) : Prop where
  named : ∃ s, page.name = .text s ∧ Text.allBlank s = false
  filled : page.fields ≠ []
  distinctIds : page.fieldIds.Nodup
  dependencies : ∀ field ∈ page.fields, field.dependsOn.truthy = true →
    ∃ driver ∈ page.fields, field.dependsOn = .text driver.id
  unmistaken : page.mistakes settings = .ok []
  driven : ∀ routing ∈ page.routing, routing.branches ≠ [] →
    ∃ driver, Routing.driver? page.routing page.fields = some driver

/-- A form has no fault: it has pages, all without a fault and with different names, every target
is one of the three words or the name of a page, every page can be reached from the first one, and
no walk along the edges comes back to where it began. -/
structure Form.IsFaultless (settings : Settings) (form : Form) : Prop where
  inhabited : form.pages ≠ []
  pages : ∀ page ∈ form.pages, page.IsFaultless settings
  distinctNames : (form.pages.map Page.name).Nodup
  targets : ∀ page ∈ form.pages, ∀ target ∈ Routing.targets page.routing page.fields,
    Target.isWord target = true ∨ target ∈ form.pages.map Page.name
  reachable : ∀ index < form.pages.length, Relation.ReflTransGen form.Leads 0 index
  acyclic : ¬ ∃ walk, IsClosedWalk form.Leads walk

/-! ## What a page is not found to lack -/

namespace Page

/-- A value that does not lack text is a text that is not blank. -/
theorem lacksText_eq_false {value : Value} :
    lacksText value = .ok false ↔ ∃ s, value = .text s ∧ Text.allBlank s = false := by
  constructor
  · intro h
    obtain ⟨s, hs, _, hblank⟩ := eq_text_of_lacksText h
    exact ⟨s, hs, hblank⟩
  · rintro ⟨s, rfl, hblank⟩
    have hgiven : (Value.text s).truthy = true := by
      rw [Value.truthy_text, Bool.not_eq_true', ← Bool.not_eq_true, String.isEmpty_iff]
      rintro rfl
      cases hblank
    rw [lacksText, if_pos hgiven]
    exact congrArg Except.ok hblank

/-- No dependency of a page dangles when each names a field of the page. -/
theorem danglingDependencies_eq_nil {page : Page} :
    page.fields.filterMap page.danglingDependency? = [] ↔
      ∀ field ∈ page.fields, field.dependsOn.truthy = true →
        ∃ driver ∈ page.fields, field.dependsOn = .text driver.id := by
  rw [List.filterMap_eq_nil_iff]
  refine forall₂_congr fun field _ => ?_
  have hdangling : page.danglingDependency? field = none ↔
      (field.dependsOn.truthy = true → page.field? field.dependsOn ≠ none) := by
    simp [danglingDependency?]
  rw [hdangling]
  refine imp_congr_right fun _ => ?_
  rw [Option.ne_none_iff_exists']
  constructor
  · rintro ⟨driver, hdriver⟩
    obtain ⟨hmem, hid⟩ := field?_eq_some hdriver
    exact ⟨driver, hmem, hid⟩
  · rintro ⟨driver, hmem, hid⟩
    rw [hid]
    exact Option.isSome_iff_exists.1 (List.find?_isSome.2 ⟨driver, hmem, decide_eq_true rfl⟩)

/-- No routing of a page is found inert when one with branches has a driver. -/
theorem hasInertRouting_eq_false {page : Page} :
    page.hasInertRouting = false ↔
      ∀ routing ∈ page.routing, routing.branches ≠ [] →
        ∃ driver, Routing.driver? page.routing page.fields = some driver := by
  unfold hasInertRouting
  cases page.routing with
  | none => simp
  | some routing => simp [Option.isNone_eq_false_iff, Option.isSome_iff_exists]

end Page

/-- Nothing was found in a page. -/
structure PageFindings.HoldNothing (finding : PageFindings) : Prop where
  unnamed : finding.unnamed = false
  isEmpty : finding.isEmpty = false
  duplicateIds : finding.duplicateIds = []
  dangling : finding.dangling = []
  mistakes : finding.mistakes = []
  inert : finding.inert = false

/-- Nothing is found in a page exactly when it has no fault. -/
theorem PageFindings.holdNothing_iff {settings : Settings} {page : Page} {index : Nat}
    {finding : PageFindings} (h : ofPage settings (page, index) = .ok finding) :
    finding.HoldNothing ↔ page.IsFaultless settings := by
  obtain ⟨unnamed, mistakes, hlacks, hmistakes, rfl⟩ := ofPage_eq_ok.1 h
  have hnamed : unnamed = false ↔ ∃ s, page.name = .text s ∧ Text.allBlank s = false := by
    rw [← Page.lacksText_eq_false, hlacks, Except.ok.injEq]
  have hunmistaken : mistakes = [] ↔ page.mistakes settings = .ok [] := by
    rw [hmistakes, Except.ok.injEq]
  constructor
  · rintro ⟨hunnamed, hempty, hids, hdangling, hmistaken, hinert⟩
    exact ⟨hnamed.1 hunnamed, List.isEmpty_eq_false_iff.1 hempty, repeatedTexts_eq_nil.1 hids,
      Page.danglingDependencies_eq_nil.1 hdangling, hunmistaken.1 hmistaken,
      Page.hasInertRouting_eq_false.1 hinert⟩
  · rintro ⟨hname, hfilled, hids, hdependencies, hmistaken, hdriven⟩
    exact ⟨hnamed.2 hname, List.isEmpty_eq_false_iff.2 hfilled, repeatedTexts_eq_nil.2 hids,
      Page.danglingDependencies_eq_nil.2 hdependencies, hunmistaken.2 hmistaken,
      Page.hasInertRouting_eq_false.2 hdriven⟩

/-! ## Findings in all pages -/

/-- A table that is written entry by entry is empty when nothing is written. -/
theorem Table.ofEntries_eq_nil {α : Type} {entries : List (String × α)} :
    ofEntries entries = [] ↔ entries = [] := by
  constructor
  · intro h
    cases entries with
    | nil => rfl
    | cons entry rest =>
        have hnone : Table.find? entry.1 (entry :: rest).reverse = none := by
          rw [← find?_ofEntries, h]
          rfl
        rw [find?_reverse_eq_none, find?, if_pos rfl] at hnone
        cases hnone
  · rintro rfl
    rfl

namespace Report

variable {form : Form} {settings : Settings} {findings : List PageFindings}

/-- Nothing is found in any page exactly when no page has a fault. -/
theorem forall_holdNothing_iff
    (hfindings : form.pages.zipIdx.mapM (PageFindings.ofPage settings) = .ok findings) :
    (∀ finding ∈ findings, finding.HoldNothing) ↔
      ∀ page ∈ form.pages, page.IsFaultless settings := by
  constructor
  · intro h page hmem
    obtain ⟨index, hentry⟩ := exists_mem_zipIdx hmem
    obtain ⟨finding, hfinding, hfound⟩ := Result.exists_mem_of_mapM_eq_ok hfindings hentry
    exact (PageFindings.holdNothing_iff hfound).1 (h finding hfinding)
  · intro h finding hfinding
    obtain ⟨index, hindex⟩ := List.mem_iff_getElem?.1 hfinding
    obtain ⟨page, hplace, hfound⟩ := (PageFindings.getElem?_eq_some hfindings).1 hindex
    exact (PageFindings.holdNothing_iff hfound).2 (h page (List.mem_of_getElem? hplace))

/-- No page is listed for a finding that none has. -/
theorem labelsWhere_eq_nil {has : PageFindings → Bool} :
    labelsWhere findings has = [] ↔ ∀ finding ∈ findings, has finding = false := by
  simp [labelsWhere]

/-- No page is listed as unnamed when none is. -/
theorem unnamedPages_eq_nil :
    (collect form findings).unnamedPages = [] ↔ ∀ finding ∈ findings, finding.unnamed = false := by
  simp only [collect, List.map_eq_nil_iff, List.filter_eq_nil_iff, Bool.not_eq_true]
  constructor
  · intro h finding hfinding
    obtain ⟨index, hentry⟩ := exists_mem_zipIdx hfinding
    exact h _ hentry
  · rintro h ⟨finding, index⟩ hentry
    exact h finding (List.fst_mem_of_mem_zipIdx hentry)

/-- Nothing is filed when no page has anything to file, although a page may take over the place of
another. -/
theorem fileLists_eq_nil {list : PageFindings → List String} :
    fileLists findings list = [] ↔ ∀ finding ∈ findings, list finding = [] := by
  rw [fileLists, Table.ofEntries_eq_nil, List.map_eq_nil_iff, List.filter_eq_nil_iff]
  simp

/-- All that is filed is empty only when there was nothing to file: under each label that is in use
something is kept. -/
theorem forall_fileLists_eq_nil {list : PageFindings → List String} :
    (∀ entry ∈ fileLists findings list, entry.2 = []) ↔
      ∀ finding ∈ findings, list finding = [] := by
  constructor
  · intro h finding hfinding
    by_contra hsome
    have hfound : (findings.reverse.find? fun f =>
        !(list f).isEmpty && f.label = finding.label).isSome = true :=
      List.find?_isSome.2 ⟨finding, List.mem_reverse.2 hfinding, by simpa using hsome⟩
    obtain ⟨last, hlast⟩ := Option.isSome_iff_exists.1 hfound
    have hfiled : (fileLists findings list).find? finding.label = some (list last) := by
      rw [find?_fileLists, hlast, Option.map_some]
    have hempty : list last = [] := h _ (Table.mem_of_find? hfiled)
    simpa [hempty] using List.find?_some hlast
  · intro h entry hentry
    rw [fileLists_eq_nil.2 h] at hentry
    cases hentry

/-- Nothing of the sorts that are found page by page is in a report when nothing was found in any
page. -/
theorem forall_holdNothing_collect (form : Form) (findings : List PageFindings) :
    (∀ finding ∈ findings, finding.HoldNothing) ↔
      (collect form findings).unnamedPages = [] ∧ (collect form findings).emptyPages = [] ∧
      (collect form findings).duplicateIds = [] ∧
      (∀ entry ∈ (collect form findings).mistakes, entry.2 = []) ∧
      (collect form findings).danglingDependencies = [] ∧
      (collect form findings).inertRoutings = [] := by
  have hdangling : (collect form findings).danglingDependencies = [] ↔
      ∀ finding ∈ findings, finding.dangling = [] := by
    simp [collect]
  have hmistakes : (∀ entry ∈ (collect form findings).mistakes, entry.2 = []) ↔
      ∀ finding ∈ findings, finding.mistakes = [] :=
    forall_fileLists_eq_nil
  have hids : (collect form findings).duplicateIds = [] ↔
      ∀ finding ∈ findings, finding.duplicateIds = [] :=
    fileLists_eq_nil
  have hempty : (collect form findings).emptyPages = [] ↔
      ∀ finding ∈ findings, finding.isEmpty = false :=
    labelsWhere_eq_nil
  have hinert : (collect form findings).inertRoutings = [] ↔
      ∀ finding ∈ findings, finding.inert = false :=
    labelsWhere_eq_nil
  rw [unnamedPages_eq_nil, hempty, hids, hmistakes, hdangling, hinert]
  constructor
  · intro h
    exact ⟨fun f hf => (h f hf).unnamed, fun f hf => (h f hf).isEmpty,
      fun f hf => (h f hf).duplicateIds, fun f hf => (h f hf).mistakes,
      fun f hf => (h f hf).dangling, fun f hf => (h f hf).inert⟩
  · rintro ⟨hunnamed, hempty, hids, hmistakes, hdangling, hinert⟩ f hf
    exact ⟨hunnamed f hf, hempty f hf, hids f hf, hdangling f hf, hmistakes f hf, hinert f hf⟩

end Report

/-! ## Findings in the form -/

namespace Form

variable {form : Form}

/-- What holds of all edges because of their targets holds of all targets of the pages. -/
theorem forall_edges_iff {P : Value → Prop} :
    (∀ edge ∈ form.edges, P edge.target) ↔
      ∀ page ∈ form.pages, ∀ target ∈ Routing.targets page.routing page.fields, P target := by
  constructor
  · intro h page hmem target htarget
    obtain ⟨index, hentry⟩ := exists_mem_zipIdx hmem
    rw [← form.map_target_edgesFrom index page] at htarget
    obtain ⟨edge, hedge, rfl⟩ := List.mem_map.1 htarget
    exact h edge (List.mem_flatMap.2 ⟨(page, index), hentry, hedge⟩)
  · intro h edge hmem
    obtain ⟨⟨page, index⟩, hentry, hedge⟩ := List.mem_flatMap.1 hmem
    refine h page (List.fst_mem_of_mem_zipIdx hentry) edge.target ?_
    rw [← form.map_target_edgesFrom index page]
    exact List.mem_map_of_mem hedge

/-- An edge dangles unless its target is one of the three words or the name of a page. -/
theorem isDangling_eq_false (hnames : form.HasTextualNames) {edge : Edge}
    (hedge : edge ∈ form.edges) :
    edge.isDangling = false ↔
      Target.isWord edge.target = true ∨ edge.target ∈ form.pages.map Page.name := by
  obtain ⟨_, heq⟩ := source_of_mem_edges hedge
  rw [Edge.isDangling, Bool.and_eq_false_iff, Bool.not_eq_false', or_comm]
  by_cases hword : Target.isWord edge.target = true
  · simp [hword]
  · have hdestination : edge.destination = form.pageIndex? edge.target := by
      rw [heq]
      exact form.destination?_of_not_isWord edge.source (Bool.eq_false_iff.2 hword)
    have hname : ∀ page ∈ form.pages,
        page.name.same edge.target = true ↔ page.name = edge.target := by
      intro page hpage
      obtain ⟨s, hs⟩ := hnames page hpage
      rw [hs, Value.text_same_iff, eq_comm]
    rw [hdestination, pageIndex?, Option.isNone_eq_false_iff, List.findIdx?_isSome,
      List.any_eq_true, List.mem_map]
    exact or_congr_right (exists_congr fun page => and_congr_right (hname page))

/-- No target is missing when each is one of the three words or the name of a page. -/
theorem missingTargets_eq_nil_iff (hnames : form.HasTextualNames) :
    form.missingTargets = [] ↔
      ∀ page ∈ form.pages, ∀ target ∈ Routing.targets page.routing page.fields,
        Target.isWord target = true ∨ target ∈ form.pages.map Page.name := by
  rw [missingTargets_eq_nil, ← forall_edges_iff]
  exact forall₂_congr fun edge hedge => isDangling_eq_false hnames hedge

/-- No page is listed as unreachable when walks lead to all from the first one. -/
theorem unreachableLabels_eq_nil :
    form.unreachableLabels = [] ↔
      ∀ index < form.pages.length, Relation.ReflTransGen form.Leads 0 index := by
  simp only [List.eq_nil_iff_forall_not_mem, mem_unreachableLabels]
  constructor
  · intro h index hindex
    by_contra hunreached
    exact h _ ⟨index, form.pages[index], List.getElem?_eq_getElem hindex, hunreached, rfl⟩
  · rintro h _ ⟨index, page, hpage, hunreached, rfl⟩
    obtain ⟨hindex, _⟩ := List.getElem?_eq_some_iff.1 hpage
    exact hunreached (h index hindex)

/-- No cycle is found when there is no closed walk along the edges. -/
theorem cycleNames?_eq_none : form.cycleNames? = none ↔ ¬ ∃ walk, IsClosedWalk form.Leads walk := by
  rw [← isSome_cycleNames?_iff, Bool.not_eq_true, Option.isSome_eq_false_iff,
    Option.isNone_iff_eq_none]

end Form

namespace Report

variable {form : Form} {settings : Settings} {report : Report}

/-- Nothing is found in a form with pages exactly when it has no fault. -/
theorem hasNoFindings_iff (hpages : form.pages ≠ []) (hnames : form.HasTextualNames)
    (h : ofForm form settings = .ok report) :
    report.HasNoFindings ↔ form.IsFaultless settings := by
  obtain ⟨_, findings, _, hfindings, _, rfl⟩ := (ofForm_eq_ok hpages).1 h
  have hpagewise := (forall_holdNothing_collect form findings).symm.trans
    (forall_holdNothing_iff hfindings)
  -- The names are compared only when none is blank, which a page without a fault says of its own.
  have hdistinct (hfaultless : ∀ page ∈ form.pages, page.IsFaultless settings) :
      form.duplicateNames = [] ↔ (form.pages.map Page.name).Nodup := by
    refine Form.duplicateNames_eq_nil fun page hpage => ?_
    obtain ⟨s, hname, hgiven, _⟩ :=
      Page.eq_text_of_lacksText (Page.lacksText_eq_false.2 (hfaultless page hpage).named)
    exact ⟨s, hname, hgiven⟩
  constructor
  · rintro ⟨hunnamed, hempty, hduplicate, hids, hmistakes, hdangling, hinert, hmissing, hunreached,
      hcycle⟩
    have hfaultless := hpagewise.1 ⟨hunnamed, hempty, hids, hmistakes, hdangling, hinert⟩
    exact ⟨hpages, hfaultless, (hdistinct hfaultless).1 hduplicate,
      (Form.missingTargets_eq_nil_iff hnames).1 hmissing,
      Form.unreachableLabels_eq_nil.1 hunreached, Form.cycleNames?_eq_none.1 hcycle⟩
  · rintro ⟨_, hfaultless, hduplicate, hmissing, hreachable, hacyclic⟩
    obtain ⟨hunnamed, hempty, hids, hmistakes, hdangling, hinert⟩ := hpagewise.2 hfaultless
    exact ⟨hunnamed, hempty, (hdistinct hfaultless).2 hduplicate, hids, hmistakes, hdangling,
      hinert, (Form.missingTargets_eq_nil_iff hnames).2 hmissing,
      Form.unreachableLabels_eq_nil.2 hreachable, Form.cycleNames?_eq_none.2 hacyclic⟩

/-- When the names of the pages are texts and the fields can be checked there is a report, and it
is clean exactly when the form has no fault. -/
theorem clean_iff_faultless {form : Form} {settings : Settings} (hnames : form.HasTextualNames)
    (hfields : ∀ field ∈ form.fields, field.IsLintable settings) :
    ∃ report, ofForm form settings = .ok report ∧
      (report.isClean = true ↔ form.IsFaultless settings) := by
  obtain ⟨report, hreport⟩ := (exists_ofForm hnames).2 hfields
  refine ⟨report, hreport, ?_⟩
  by_cases hpages : form.pages = []
  · rw [ofForm_nil hpages] at hreport
    cases hreport
    exact ⟨fun hclean => absurd hclean Bool.false_ne_true,
      fun hfaultless => absurd hpages hfaultless.inhabited⟩
  · rw [isClean_iff hpages hreport, hasNoFindings_iff hpages hnames hreport]

/-- The example form has no fault, since nothing is reported about it. -/
theorem clean_iff_faultless_inspection :
    Example.form.HasTextualNames ∧
      (∀ field ∈ Example.form.fields, field.IsLintable Settings.standard) ∧
      Example.form.IsFaultless Settings.standard := by
  have hnames : Example.form.HasTextualNames := by
    simp [Form.HasTextualNames, Example.form, Example.jobDetails, Example.accessProblem,
      Example.inspection, Example.electricalDetails, Example.signOff, Example.page]
  have hclean : (ofForm Example.form Settings.standard).toOption.any isClean = true := by
    decide +kernel
  obtain ⟨found, hfound⟩ : ∃ report, ofForm Example.form Settings.standard = .ok report := by
    cases hreport : ofForm Example.form Settings.standard with
    | error fault =>
        rw [hreport] at hclean
        cases hclean
    | ok report => exact ⟨report, rfl⟩
  have hfields := (exists_ofForm hnames).1 ⟨found, hfound⟩
  obtain ⟨report, hreport, hiff⟩ := clean_iff_faultless hnames hfields
  rw [hreport] at hclean
  exact ⟨hnames, hfields, hiff.1 hclean⟩

end Report

end PagedForm
