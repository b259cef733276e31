import Mathlib.Data.List.Nodup
import PagedForm.Proofs.Diagnosis.Findings

/-!
# Clean reports

A report is clean exactly when none of its findings holds anything, which `Report.isClean_iff`
says. An empty finding says something about the form, and together they make it well linked: its
pages have different names that are not blank, its targets name pages, and its edges have no
cycle.
-/

namespace PagedForm

/-! ## Empty findings -/

/-- No text is repeated exactly when all texts differ. -/
theorem repeatedTexts_eq_nil {texts : List String} : repeatedTexts texts = [] ↔ texts.Nodup := by
  -- Neither sorting nor dropping repetitions decides whether any text is left.
  have hsorted : repeatedTexts texts = [] ↔
      (texts.filter fun text => 1 < texts.count text) = [] := by
    simp only [List.eq_nil_iff_forall_not_mem, repeatedTexts, mem_sortedTexts]
  rw [hsorted, List.filter_eq_nil_iff, List.nodup_iff_count_le_one]
  constructor
  · intro h text
    by_cases hmem : text ∈ texts
    · simpa using h text hmem
    · rw [List.count_eq_zero.2 hmem]
      exact Nat.zero_le 1
  · intro h text _
    simpa using h text

namespace Form

variable {form : Form}

/-- Targets that were found stay when others are added. -/
theorem subset_foldl_addTarget (entries found : List (Value × Value)) :
    found ⊆ entries.foldl addTarget found := by
  induction entries generalizing found with
  | nil => exact List.Subset.refl found
  | cons entry rest ih =>
      refine List.Subset.trans ?_ (ih (addTarget found entry))
      unfold addTarget
      split
      · exact List.Subset.refl found
      · exact List.subset_append_left found [entry]

/-- No target is missing exactly when every edge leads to a page or ends the form. -/
theorem missingTargets_eq_nil :
    form.missingTargets = [] ↔ ∀ edge ∈ form.edges, edge.isDangling = false := by
  have hdangling : (form.edges.filter Edge.isDangling) = [] ↔
      ∀ edge ∈ form.edges, edge.isDangling = false := by
    simp only [List.filter_eq_nil_iff, Bool.not_eq_true]
  rw [← hdangling]
  unfold missingTargets
  constructor
  · intro h
    cases hedges : form.edges.filter Edge.isDangling with
    | nil => rfl
    | cons edge rest =>
        -- The first target that names no page is kept.
        rw [hedges, List.map_cons, List.foldl_cons] at h
        have hkept := subset_foldl_addTarget
          (rest.map fun edge => (form.nameAt edge.source, edge.target))
          (addTarget [] (form.nameAt edge.source, edge.target)) List.mem_cons_self
        rw [h] at hkept
        cases hkept
  · intro h
    rw [h]
    rfl

/-- Where the names of the pages are texts, none of them empty, they are different exactly when no
name is found twice. -/
theorem duplicateNames_eq_nil
    (hnames : ∀ page ∈ form.pages, ∃ s, page.name = .text s ∧ s.isEmpty = false) :
    form.duplicateNames = [] ↔ (form.pages.map Page.name).Nodup := by
  obtain ⟨texts, htexts⟩ : ∃ texts : List String, form.pages.map Page.name = texts.map .text := by
    apply Value.exists_texts
    rw [List.forall_mem_map]
    intro page hpage
    obtain ⟨s, hname, _⟩ := hnames page hpage
    exact ⟨s, hname⟩
  have hgiven : ∀ s ∈ texts, (!s.isEmpty) = true := by
    intro s hs
    have hname : Value.text s ∈ form.pages.map Page.name :=
      htexts ▸ List.mem_map_of_mem hs
    obtain ⟨page, hpage, hname⟩ := List.mem_map.1 hname
    obtain ⟨t, ht, hempty⟩ := hnames page hpage
    cases hname.symm.trans ht
    rw [hempty, Bool.not_false]
  have hfound : (form.pages.filterMap fun page => page.name.text?) = texts := by
    have hcomp : (form.pages.filterMap fun page => page.name.text?) =
        (form.pages.map Page.name).filterMap Value.text? := by
      rw [List.filterMap_map]
      rfl
    rw [hcomp, htexts, List.filterMap_map]
    exact List.filterMap_some
  rw [duplicateNames, hfound, List.filter_eq_self.2 hgiven, repeatedTexts_eq_nil, htexts]
  exact (List.nodup_map_iff Value.text_injective).symm

/-- The pages have different names that are not blank, every edge leads to a page or ends the form,
and no page can be reached from itself. -/
structure IsWellLinked (form : Form) : Prop where
  names : ∀ page ∈ form.pages,
    ∃ s, page.name = .text s ∧ s.isEmpty = false ∧ Text.allBlank s = false
  distinct : (form.pages.map Page.name).Nodup
  resolved : ∀ edge ∈ form.edges, edge.isDangling = false
  acyclic : ∀ index, ¬ Relation.TransGen form.Leads index index

/-- Where no cycle is found, no page can be reached from itself. -/
theorem acyclic_of_cycleNames? (h : form.cycleNames? = none) (index : Nat) :
    ¬ Relation.TransGen form.Leads index index := by
  rcases form.cycle_cases with ⟨cycle, hfound, _⟩ | ⟨_, hacyclic⟩
  · rw [cycleNames?, hfound] at h
    cases h
  · exact hacyclic index

end Form

namespace Report

/-- Nothing was found in a form: no finding of its report holds anything. -/
structure HasNoFindings (report : Report) : Prop where
  unnamedPages : report.unnamedPages = []
  emptyPages : report.emptyPages = []
  duplicateNames : report.duplicateNames = []
  duplicateIds : report.duplicateIds = []
  mistakes : ∀ entry ∈ report.mistakes, entry.2 = []
  danglingDependencies : report.danglingDependencies = []
  inertRoutings : report.inertRoutings = []
  missingTargets : report.missingTargets = []
  unreachablePages : report.unreachablePages = []
  cycle : report.cycle = none

/-- A list has no warning exactly when it is empty. -/
theorem listWarning_eq_nil {start : String} {texts : List String} :
    listWarning start texts = [] ↔ texts = [] := by
  unfold listWarning
  cases texts with
  | nil => exact ⟨fun _ => rfl, fun _ => rfl⟩
  | cons text rest => exact ⟨fun h => absurd h (List.cons_ne_nil _ _), fun h => by cases h⟩

/-- A cycle always has a warning. -/
theorem cycleWarning_nil {cycle : Option (List Value)} {closing : List String}
    (h : cycleWarning cycle = .ok closing) : closing = [] ↔ cycle = none := by
  unfold cycleWarning at h
  split at h
  · cases h
    exact ⟨fun _ => rfl, fun _ => rfl⟩
  · obtain ⟨joined, _, rfl⟩ := Result.map_eq_ok.1 h
    exact ⟨fun hnil => absurd hnil (List.cons_ne_nil _ _), fun hnone => by cases hnone⟩

variable {form : Form} {settings : Settings} {report : Report}

/-- The report on a form with pages is clean exactly when nothing was found. -/
theorem isClean_iff (hpages : form.pages ≠ []) (h : ofForm form settings = .ok report) :
    report.isClean = true ↔ report.HasNoFindings := by
  obtain ⟨_, findings, closing, _, hclosing, rfl⟩ := (ofForm_eq_ok hpages).1 h
  have hwarnings : (((collect form findings).describe ++ closing).eraseDups = [] ↔
      (collect form findings).describe = [] ∧ closing = []) := by
    rw [← List.append_eq_nil_iff]
    simp only [List.eq_nil_iff_forall_not_mem, List.mem_eraseDups]
  rw [isClean, List.isEmpty_iff, hwarnings, cycleWarning_nil hclosing]
  simp only [describe, List.append_eq_nil_iff, List.map_eq_nil_iff, List.flatMap_eq_nil_iff,
    listWarning_eq_nil, and_assoc]
  constructor
  · rintro ⟨hunnamed, hempty, hnames, hids, hmistakes, hdependencies, hinert, hmissing,
      hunreachable, hcycle⟩
    exact ⟨hunnamed, hempty, hnames, hids, hmistakes, hdependencies, hinert, hmissing,
      hunreachable, hcycle⟩
  · rintro ⟨hunnamed, hempty, hnames, hids, hmistakes, hdependencies, hinert, hmissing,
      hunreachable, hcycle⟩
    exact ⟨hunnamed, hempty, hnames, hids, hmistakes, hdependencies, hinert, hmissing,
      hunreachable, hcycle⟩

/-- Where no page is found to lack a name, the names are texts that are not blank. -/
theorem names_of_unnamedPages {findings : List PageFindings}
    (hfindings : form.pages.zipIdx.mapM (PageFindings.ofPage settings) = .ok findings)
    (hnone : (collect form findings).unnamedPages = []) :
    ∀ page ∈ form.pages,
      ∃ s, page.name = .text s ∧ s.isEmpty = false ∧ Text.allBlank s = false := by
  have hnamed : ∀ finding ∈ findings, finding.unnamed = false := by
    intro finding hfinding
    obtain ⟨index, hentry⟩ := exists_mem_zipIdx hfinding
    have hfilter := List.filter_eq_nil_iff.1 (List.map_eq_nil_iff.1 hnone) _ hentry
    exact Bool.eq_false_iff.2 hfilter
  intro page hpage
  obtain ⟨index, hentry⟩ := exists_mem_zipIdx hpage
  obtain ⟨finding, hfinding, hpageFindings⟩ := Result.exists_mem_of_mapM_eq_ok hfindings hentry
  obtain ⟨unnamed, _, hlacks, _, rfl⟩ := PageFindings.ofPage_eq_ok.1 hpageFindings
  obtain rfl : unnamed = false := hnamed _ hfinding
  exact Page.eq_text_of_lacksText hlacks

/-- A form whose report is clean is well linked. -/
theorem isWellLinked_of_isClean (hpages : form.pages ≠ [])
    (h : ofForm form settings = .ok report) (hclean : report.isClean = true) :
    form.IsWellLinked := by
  have hfound := (isClean_iff hpages h).1 hclean
  obtain ⟨_, findings, _, hfindings, _, rfl⟩ := (ofForm_eq_ok hpages).1 h
  have hnames := names_of_unnamedPages hfindings hfound.unnamedPages
  refine ⟨hnames, ?_, ?_, ?_⟩
  · refine (Form.duplicateNames_eq_nil fun page hpage => ?_).1 hfound.duplicateNames
    obtain ⟨s, hname, hs, _⟩ := hnames page hpage
    exact ⟨s, hname, hs⟩
  · exact Form.missingTargets_eq_nil.1 hfound.missingTargets
  · exact Form.acyclic_of_cycleNames? hfound.cycle

end Report

end PagedForm
