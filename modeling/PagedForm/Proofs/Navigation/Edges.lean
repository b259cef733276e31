import PagedForm.Navigation.Edge
import PagedForm.Navigation.Outcome

/-!
# Edges

The graph of pages is drawn from the routings alone, while leaving a page looks at the answers.
`Edge.Covers` says when an edge accounts for an outcome, and the edge for a target covers the
outcome of the target. Edges lead from pages of the form to pages of the form.
-/

namespace PagedForm

/-- The edge accounts for the outcome: it leads to the same page, or its target names no page for
the outcome that finds none, or it leads nowhere for the outcomes that end the form. -/
inductive Edge.Covers (edge : Edge) : Outcome → Prop where
  | page {outcome : Outcome} {place : Nat} :
      outcome.pageIndex? = some (place : Int) → edge.destination = some place →
      edge.Covers outcome
  | notFound {name : Value} :
      edge.isDangling = true → edge.target = name → edge.Covers (.notFound name)
  | complete :
      edge.destination = none → edge.isDangling = false → edge.Covers .complete
  | ended :
      edge.destination = none → edge.isDangling = false → edge.Covers .ended

/-- An edge leads to the page that the outcome leads to, if there is one. -/
theorem Edge.Covers.pageIndex?_eq {edge : Edge} {outcome : Outcome} (h : edge.Covers outcome) :
    outcome.pageIndex? = edge.destination.map Nat.cast := by
  cases h with
  | page hplace hdestination => rw [hplace, hdestination, Option.map_some]
  | notFound hdangling =>
      rw [isDangling, Bool.and_eq_true, Option.isNone_iff_eq_none] at hdangling
      rw [hdangling.1]
      rfl
  | complete hdestination | ended hdestination =>
      rw [hdestination]
      rfl

/-- The outcome leads to the page that the edge leads to, and to no other. -/
theorem Edge.Covers.pageIndex?_eq_some_iff {edge : Edge} {outcome : Outcome}
    (h : edge.Covers outcome) {place : Nat} :
    outcome.pageIndex? = some (place : Int) ↔ edge.destination = some place := by
  rw [h.pageIndex?_eq, Option.map_eq_some_iff]
  constructor
  · rintro ⟨other, hother, hsame⟩
    rw [hother, Int.ofNat_inj.1 hsame]
  · intro hplace
    exact ⟨place, hplace, rfl⟩

/-- An edge whose target names no page accounts only for finding none. -/
theorem Edge.Covers.eq_notFound {edge : Edge} {outcome : Outcome} (h : edge.Covers outcome)
    (hdangling : edge.isDangling = true) : outcome = .notFound edge.target := by
  cases h with
  | page _ hdestination =>
      rw [isDangling, hdestination] at hdangling
      cases hdangling
  | notFound _ htarget => rw [htarget]
  | complete _ hending | ended _ hending =>
      rw [hending] at hdangling
      cases hdangling

/-- When only one place contributes, going through all places gives what it contributes. -/
theorem flatMap_zipIdx_eq {α β : Type} {items : List α} {f : α × Nat → List β} {index : Nat}
    {item : α} (h : items[index]? = some item) (start : Nat)
    (hnil : ∀ other place, place ≠ start + index → f (other, place) = []) :
    (items.zipIdx start).flatMap f = f (item, start + index) := by
  induction items generalizing index start with
  | nil => simp at h
  | cons first rest ih =>
      rw [List.zipIdx_cons, List.flatMap_cons]
      cases index with
      | zero =>
          obtain rfl : first = item := by simpa using h
          have hrest : (rest.zipIdx (start + 1)).flatMap f = [] := by
            rw [List.flatMap_eq_nil_iff]
            rintro ⟨other, place⟩ hmem
            have hplace := List.le_snd_of_mem_zipIdx hmem
            exact hnil other place (by omega)
          rw [hrest, List.append_nil, Nat.add_zero]
      | succ index =>
          have hfirst : f (first, start) = [] := hnil first start (by omega)
          have hshift : start + (index + 1) = start + 1 + index := by omega
          rw [hshift] at hnil ⊢
          rw [hfirst, List.nil_append, ih (by simpa using h) (start + 1) hnil]

namespace Form

variable {form : Form}

/-! ## Edges by their source -/

/-- An edge that leaves a page is the edge for its target. -/
theorem eq_edgeTo_of_mem_edgesFrom {source : Nat} {page : Page} {edge : Edge}
    (h : edge ∈ form.edgesFrom source page) :
    edge = form.edgeTo source edge.target edge.label := by
  unfold edgesFrom at h
  split at h
  · rw [List.mem_append, List.mem_map, List.mem_singleton] at h
    rcases h with ⟨branch, _, rfl⟩ | rfl
    · rfl
    · rfl
  · rw [List.mem_singleton] at h
    rw [h]
    rfl

/-- The edges with a source are those that leave its page. -/
theorem filter_source_edges {index : Nat} {page : Page} (h : form.pages[index]? = some page) :
    (form.edges.filter fun edge => edge.source = index) = form.edgesFrom index page := by
  have hsource : ∀ other place, ∀ edge ∈ form.edgesFrom place other, edge.source = place := by
    intro other place edge hedge
    rw [eq_edgeTo_of_mem_edgesFrom hedge]
    rfl
  -- The page itself keeps all of its edges, and every other page loses all of its own.
  unfold edges
  rw [List.filter_flatMap, flatMap_zipIdx_eq h 0]
  · rw [Nat.zero_add, List.filter_eq_self]
    intro edge hedge
    exact decide_eq_true (hsource page index edge hedge)
  · intro other place hplace
    rw [List.filter_eq_nil_iff]
    intro edge hedge
    rw [hsource other place edge hedge, decide_eq_true_eq]
    omega

/-- An edge leaves a page of the form, and it is the edge for its target. -/
theorem source_of_mem_edges {edge : Edge} (h : edge ∈ form.edges) :
    edge.source < form.pages.length ∧
      edge = form.edgeTo edge.source edge.target edge.label := by
  obtain ⟨⟨page, index⟩, hmem, hedge⟩ := List.mem_flatMap.1 h
  have hpage := List.mem_zipIdx_iff_getElem?.1 hmem
  obtain ⟨hindex, _⟩ := List.getElem?_eq_some_iff.1 hpage
  have hsource : edge.source = index := congrArg Edge.source (eq_edgeTo_of_mem_edgesFrom hedge)
  rw [hsource]
  exact ⟨hindex, eq_edgeTo_of_mem_edgesFrom hedge⟩

/-! ## Where edges lead -/

/-- A target that is none of the three words leads to the first page with the name. -/
theorem destination?_of_not_isWord (form : Form) (source : Nat) {target : Value}
    (h : Target.isWord target = false) :
    form.destination? source target = form.pageIndex? target := by
  simp only [Target.isWord, Bool.or_eq_false_iff] at h
  simp [destination?, h]

/-- An edge leads to a page of the form. -/
theorem destination?_lt {source place : Nat} {target : Value}
    (hsource : source < form.pages.length) (h : form.destination? source target = some place) :
    place < form.pages.length := by
  unfold destination? at h
  dsimp only at h
  split at h
  · split at h
    · cases h
      omega
    · cases h
  · split at h
    · cases h
    · split at h
      · cases h
        omega
      · obtain ⟨hlt, _⟩ := List.findIdx?_eq_some_iff_getElem.1 h
        exact hlt

/-- An edge leads from one place to the other. -/
def Leads (form : Form) (source place : Nat) : Prop :=
  ∃ edge ∈ form.edges, edge.source = source ∧ edge.destination = some place

/-- The edges lead from a page of the form to a page of the form. -/
theorem Leads.lt {source place : Nat} (h : form.Leads source place) :
    source < form.pages.length ∧ place < form.pages.length := by
  obtain ⟨edge, hedge, rfl, hplace⟩ := h
  obtain ⟨hsource, heq⟩ := source_of_mem_edges hedge
  rw [heq] at hplace
  exact ⟨hsource, destination?_lt hsource hplace⟩

/-! ## Edges and outcomes -/

/-- The first page with a name, found by the names alone. -/
theorem find?_names (form : Form) (target : Value) :
    ((form.pages.map Page.name).zipIdx.find? fun entry => entry.1.same target).map Prod.snd =
      form.pageIndex? target := by
  have hnames : (form.pages.map Page.name).findIdx? (fun name => name.same target) =
      ((form.pages.map Page.name).zipIdx.find? fun entry => entry.1.same target).map Prod.snd :=
    List.findIdx?_eq_fst_find?_zipIdx
  rw [← hnames, List.findIdx?_map]
  rfl

/-- The edge for one of the three words covers the outcome of the word. -/
theorem covers_edgeTo_of_isWord (form : Form) {source : Nat} (h : source < form.pages.length)
    {target : Value} (hword : Target.isWord target = true) (label : String) :
    (form.edgeTo source target label).Covers
      (.ofTarget target (form.pages.map Page.name) source) := by
  have hlast : ((form.pages.map Page.name).length : Int) - 1 = (form.pages.length - 1 : Nat) := by
    rw [List.length_map]
    omega
  have hdangling : (form.edgeTo source target label).isDangling = false := by
    simp [edgeTo, Edge.isDangling, hword]
  unfold Outcome.ofTarget
  dsimp only
  rw [hlast]
  -- Both sides ask for the words in the same order, so each case decides both.
  by_cases hnext : target.isText Target.next = true
  · rw [if_pos hnext]
    by_cases hbefore : source < form.pages.length - 1
    · have hdestination : (form.edgeTo source target label).destination = some (source + 1) := by
        simp [edgeTo, destination?, hnext, hbefore]
      rw [if_pos (Int.ofNat_lt.2 hbefore)]
      exact .page rfl hdestination
    · have hdestination : (form.edgeTo source target label).destination = none := by
        simp [edgeTo, destination?, hnext, hbefore]
      rw [if_neg (mt Int.ofNat_lt.1 hbefore)]
      exact .complete hdestination hdangling
  · rw [if_neg hnext]
    by_cases hfinish : target.isText Target.finish = true
    · have hdestination : (form.edgeTo source target label).destination = none := by
        simp [edgeTo, destination?, hnext, hfinish]
      rw [if_pos hfinish]
      exact .ended hdestination hdangling
    · have hskip : target.isText Target.last = true := by
        simpa [Target.isWord, hnext, hfinish] using hword
      have hdestination : (form.edgeTo source target label).destination =
          some (form.pages.length - 1) := by
        simp [edgeTo, destination?, hnext, hfinish, hskip]
      rw [if_neg hfinish, if_pos hskip]
      exact .page rfl hdestination

/-- The edge for a name covers the outcome of the name, whether a page has it or not. -/
theorem covers_edgeTo_of_not_isWord (form : Form) (source : Nat) {target : Value}
    (hword : Target.isWord target = false) (label : String) :
    (form.edgeTo source target label).Covers
      (.ofTarget target (form.pages.map Page.name) source) := by
  have hindex := form.find?_names target
  have hdestination : (form.edgeTo source target label).destination =
      form.pageIndex? target :=
    form.destination?_of_not_isWord source hword
  simp only [Target.isWord, Bool.or_eq_false_iff] at hword
  obtain ⟨⟨hnext, hfinish⟩, hskip⟩ := hword
  unfold Outcome.ofTarget
  simp only [hnext, hfinish, hskip, Bool.false_eq_true, if_false]
  split
  · next name index hfound =>
      rw [hfound] at hindex
      exact .page rfl (hdestination.trans hindex.symm)
  · next hfound =>
      rw [hfound] at hindex
      refine .notFound ?_ rfl
      rw [Edge.isDangling, hdestination, ← hindex]
      simp [edgeTo, Target.isWord, hnext, hfinish, hskip]

/-- The edge for a target covers the outcome of the target. -/
theorem covers_edgeTo (form : Form) {source : Nat} (h : source < form.pages.length)
    (target : Value) (label : String) :
    (form.edgeTo source target label).Covers
      (.ofTarget target (form.pages.map Page.name) source) := by
  cases hword : Target.isWord target with
  | true => exact form.covers_edgeTo_of_isWord h hword label
  | false => exact form.covers_edgeTo_of_not_isWord source hword label

end Form

end PagedForm
