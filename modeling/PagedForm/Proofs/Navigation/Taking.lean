import Mathlib.Data.Set.Finite.Basic
import PagedForm.Diagnosis.Reach
import PagedForm.Example
import PagedForm.Proofs.Navigation.Edges
import PagedForm.Proofs.Navigation.Leaving
import PagedForm.Proofs.Results
import PagedForm.Proofs.Routing.FirstMatch

/-!
# Every edge can be taken

The graph of pages has an edge for every branch and one for the fallback. When the constants of a
routing are different texts, none of them empty, an answer that gives just one of them passes by the
branches before it, and an answer that gives none of them passes by all. So each target of the
routing is selected for some answers, and each edge from the page is taken.
-/

namespace PagedForm

/-- The constants of a routing are different texts, none of them empty. -/
structure Routing.HasDistinctConstants (routing : Routing) : Prop where
  given : ∀ branch ∈ routing.branches, ∃ s, branch.value = .text s ∧ s ≠ ""
  distinct : (routing.branches.map Branch.value).Nodup

/-- Some text is neither empty nor among these values. -/
theorem exists_fresh_text (values : List Value) : ∃ s, s ≠ "" ∧ Value.text s ∉ values := by
  have htexts := Set.infinite_range_of_injective Value.text_injective
  obtain ⟨_, ⟨s, rfl⟩, hfresh⟩ :=
    htexts.exists_notMem_finite (List.finite_toSet (.text "" :: values))
  rw [Set.mem_ofPred_eq, List.mem_cons, not_or] at hfresh
  exact ⟨s, fun hempty => hfresh.1 (congrArg Value.text hempty), hfresh.2⟩

namespace Field

/-- The answer to a field that gives one text: the list of this text for a checkbox, and the text
itself for any other field. -/
def answerOf (field : Field) (s : String) : Value :=
  if field.isCheckbox then .texts [s] else .text s

variable {field : Field} {s : String}

/-- An answer that gives one text meets this text and no other constant. -/
theorem meets_answerOf {constant : String} :
    field.Meets (field.answerOf s) (.text constant) ↔ constant = s := by
  unfold answerOf
  split
  · next hbox =>
      constructor
      · rintro (⟨_, hholds⟩ | _)
        simpa [Value.text_isIn_iff] using hholds
      · rintro rfl
        exact .held hbox (Value.text_isIn_iff.2 (List.mem_singleton_self _))
  · next hother =>
      constructor
      · rintro (_ | _)
        rfl
      · rintro rfl
        exact .equal constant (Bool.eq_false_iff.2 hother)

/-- An answer that gives a text is missing only when the text is empty. -/
theorem isMissing_answerOf (h : s ≠ "") : isMissing (field.answerOf s) = false := by
  unfold answerOf
  split
  · rfl
  · simpa [isMissing] using h

end Field

/-- The answer that gives a text meets only the constant that is this text. -/
theorem Routing.HasDistinctConstants.eq_text_of_meets {routing : Routing}
    (h : routing.HasDistinctConstants) {branch : Branch} (hbranch : branch ∈ routing.branches)
    {driver : Field} {s : String} (hmeets : driver.Meets (driver.answerOf s) branch.value) :
    branch.value = .text s := by
  obtain ⟨constant, hconstant, _⟩ := h.given branch hbranch
  rw [hconstant, Field.meets_answerOf] at hmeets
  rw [hconstant, hmeets]

/-- The answers in which only one field is answered, with one text. -/
def Answers.only (field : Field) (s : String) : Answers :=
  [(field.id, field.answerOf s)]

/-- The one answer is that of the field. -/
@[simp] theorem Answers.get_only (field : Field) (s : String) :
    (Answers.only field s).get field.id = field.answerOf s := by
  simp [Answers.get, Answers.only, Table.find?]

/-- The one answer is not missing unless its text is empty. -/
theorem Answers.isMissing_only (field : Field) {s : String} (h : s ≠ "") :
    isMissing ((Answers.only field s).get field.id) = false := by
  rw [get_only, Field.isMissing_answerOf h]

namespace Page

variable {page : Page}

/-- With different constants, the text of a branch selects the target of the branch. -/
theorem select_only_of_mem {routing : Routing} {driver : Field}
    (hrouting : page.routing = some routing) (hdriven : routing.IsDrivenBy page.fields driver)
    (hconstants : routing.HasDistinctConstants) {branch : Branch}
    (hbranch : branch ∈ routing.branches) {s : String} (hs : branch.value = .text s) :
    Routing.select page.routing page.fields (Answers.only driver s) = .ok branch.target := by
  obtain ⟨before, after, hbranches⟩ := List.append_of_mem hbranch
  have hdistinct := hconstants.distinct
  rw [hbranches, List.map_append, List.map_cons, List.nodup_append] at hdistinct
  refine (Routing.Selects.branch hrouting hdriven hbranches ?_ ?_).select_eq
  · -- A branch before it that the answer meets would have the same constant.
    intro earlier hearlier hmeets
    rw [Answers.get_only] at hmeets
    have hsame := hconstants.eq_text_of_meets (hbranches ▸ List.mem_append_left _ hearlier) hmeets
    exact hdistinct.2.2 _ (List.mem_map_of_mem hearlier) _ List.mem_cons_self
      (hsame.trans hs.symm)
  · rw [Answers.get_only, hs]
    exact Field.meets_answerOf.2 rfl

/-- With texts as constants, a text that is none of them selects the fallback. -/
theorem select_only_of_fresh {routing : Routing} {driver : Field}
    (hrouting : page.routing = some routing) (hdriven : routing.IsDrivenBy page.fields driver)
    (hconstants : routing.HasDistinctConstants) {s : String}
    (hfresh : .text s ∉ routing.branches.map Branch.value) :
    Routing.select page.routing page.fields (Answers.only driver s) = .ok routing.fallback := by
  refine (Routing.Selects.fallback hrouting hdriven ?_).select_eq
  intro branch hbranch hmeets
  rw [Answers.get_only] at hmeets
  exact hfresh (List.mem_map.2 ⟨branch, hbranch, hconstants.eq_text_of_meets hbranch hmeets⟩)

/-- With different constants, each target of a routing is selected for some answer to its driver. -/
theorem exists_only_selecting {routing : Routing} {driver : Field}
    (hrouting : page.routing = some routing) (hdriven : routing.IsDrivenBy page.fields driver)
    (hconstants : routing.HasDistinctConstants) {target : Value}
    (htarget : target ∈ Routing.targets page.routing page.fields) :
    ∃ s, s ≠ "" ∧
      Routing.select page.routing page.fields (Answers.only driver s) = .ok target := by
  rw [Routing.targets, Routing.active?_eq_some_iff.2 ⟨hrouting, hdriven⟩, List.mem_append,
    List.mem_map, List.mem_singleton] at htarget
  rcases htarget with ⟨branch, hbranch, rfl⟩ | rfl
  · obtain ⟨s, hs, hgiven⟩ := hconstants.given branch hbranch
    exact ⟨s, hgiven, select_only_of_mem hrouting hdriven hconstants hbranch hs⟩
  · obtain ⟨s, hgiven, hfresh⟩ := exists_fresh_text (routing.branches.map Branch.value)
    exact ⟨s, hgiven, select_only_of_fresh hrouting hdriven hconstants hfresh⟩

/-- When the routing of a page is inert or has different constants, each of its targets is selected
for some answers with which the page waits for nothing. -/
theorem exists_selecting
    (h : Routing.driver? page.routing page.fields = none ∨
      ∃ routing ∈ page.routing, routing.HasDistinctConstants) {target : Value}
    (htarget : target ∈ Routing.targets page.routing page.fields) :
    ∃ answers, (∀ driver, ¬ page.WaitsFor answers driver) ∧
      Routing.select page.routing page.fields answers = .ok target := by
  cases hactive : Routing.active? page.routing page.fields with
  | none =>
      have hnone : Routing.driver? page.routing page.fields = none := by
        rw [Routing.driver?, hactive, Option.map_none]
      rw [Routing.targets, hactive, List.mem_singleton] at htarget
      refine ⟨[], ?_, htarget ▸ Routing.select_of_no_driver hnone []⟩
      rintro driver ⟨hdriver, _⟩
      rw [hnone] at hdriver
      cases hdriver
  | some found =>
      obtain ⟨routing, driver⟩ := found
      have hdriver : Routing.driver? page.routing page.fields = some driver := by
        rw [Routing.driver?, hactive, Option.map_some]
      obtain ⟨hrouting, hdriven⟩ := Routing.active?_eq_some_iff.1 hactive
      rcases h with hnone | ⟨other, hother, hconstants⟩
      · rw [hdriver] at hnone
        cases hnone
      · obtain rfl : routing = other := Option.some.inj (hrouting.symm.trans hother)
        obtain ⟨s, hgiven, hselect⟩ := exists_only_selecting hrouting hdriven hconstants htarget
        exact ⟨_, not_waitsFor hdriver (Answers.isMissing_only driver hgiven), hselect⟩

end Page

namespace Form

variable {form : Form} {index : Nat} {page : Page}

/-- With different constants, the page is left for some answers to the target of each edge that
leaves it, and the edge covers the outcome. -/
theorem exists_taking (hpage : form.pages[index]? = some page)
    (h : Routing.driver? page.routing page.fields = none ∨
      ∃ routing ∈ page.routing, routing.HasDistinctConstants) {edge : Edge}
    (hedge : edge ∈ form.edges) (hsource : edge.source = index) :
    ∃ answers outcome, page.leave answers form.pages index = .ok outcome ∧
      (∀ messages, outcome ≠ .blocked messages) ∧ edge.Covers outcome := by
  obtain ⟨hindex, _⟩ := List.getElem?_eq_some_iff.1 hpage
  have htarget : edge.target ∈ Routing.targets page.routing page.fields := by
    rw [← form.map_target_edgesFrom index, ← filter_source_edges hpage]
    exact List.mem_map_of_mem (List.mem_filter.2 ⟨hedge, decide_eq_true hsource⟩)
  obtain ⟨answers, hfree, hselect⟩ := Page.exists_selecting h htarget
  have hcovers := form.covers_edgeTo hindex edge.target edge.label
  rw [← hsource, ← (source_of_mem_edges hedge).2, hsource] at hcovers
  exact ⟨answers, _, Page.leave_of_not_waitsFor hfree hselect form.pages index,
    Outcome.ofTarget_ne_blocked _ _ _, hcovers⟩

/-- Let the routing of a page be inert, or let its constants be different texts, none of them empty.
Then for each edge that leaves the page there are answers with which the page can be left and leads
where the edge does: to its destination, to no page when it has none, and to the report that no page
has the name of its target when it dangles. So whatever the graph has for a page to lead to, it leads
to for some answers. -/
theorem edges_can_be_taken (hpage : form.pages[index]? = some page)
    (h : Routing.driver? page.routing page.fields = none ∨
      ∃ routing ∈ page.routing, routing.HasDistinctConstants) :
    (∀ edge ∈ form.edges, edge.source = index →
      ∃ answers outcome, page.leave answers form.pages index = .ok outcome ∧
        (∀ messages, outcome ≠ .blocked messages) ∧
        outcome.pageIndex? = edge.destination.map Nat.cast ∧
        (edge.isDangling = true → outcome = .notFound edge.target)) ∧
    ∀ place ∈ form.graph.next index,
      ∃ answers outcome, page.leave answers form.pages index = .ok outcome ∧
        outcome.pageIndex? = some (place : Int) := by
  obtain ⟨hindex, _⟩ := List.getElem?_eq_some_iff.1 hpage
  constructor
  · intro edge hedge hsource
    obtain ⟨answers, outcome, hleave, hfree, hcovers⟩ := exists_taking hpage h hedge hsource
    exact ⟨answers, outcome, hleave, hfree, hcovers.pageIndex?_eq, hcovers.eq_notFound⟩
  · intro place hplace
    rw [mem_next_graph] at hplace
    obtain ⟨edge, hedge, hsource, hdestination⟩ := hplace
    obtain ⟨answers, outcome, hleave, _, hcovers⟩ := exists_taking hpage h hedge hsource
    exact ⟨answers, outcome, hleave, hcovers.pageIndex?_eq_some_iff.2 hdestination⟩

/-- The page on the findings of the inspection: one branch for a checkbox. Its two edges are taken. -/
theorem edges_can_be_taken_inspection :
    Example.form.pages[2]? = some Example.inspection ∧
      (∃ routing ∈ Example.inspection.routing, routing.HasDistinctConstants) ∧
      (∀ edge ∈ Example.form.edges, edge.source = 2 →
        ∃ answers outcome,
          Example.inspection.leave answers Example.form.pages (2 : Nat) = .ok outcome ∧
          outcome.pageIndex? = edge.destination.map Nat.cast) ∧
      ∀ place ∈ Example.form.graph.next 2,
        ∃ answers outcome,
          Example.inspection.leave answers Example.form.pages (2 : Nat) = .ok outcome ∧
          outcome.pageIndex? = some (place : Int) := by
  have hconstants : ∃ routing ∈ Example.inspection.routing, routing.HasDistinctConstants := by
    refine ⟨_, rfl, ⟨?_, List.nodup_singleton _⟩⟩
    intro branch hbranch
    obtain rfl := List.mem_singleton.1 hbranch
    exact ⟨"Electrical", rfl, by decide⟩
  have hpage : Example.form.pages[2]? = some Example.inspection := rfl
  obtain ⟨hedges, hplaces⟩ := edges_can_be_taken hpage (.inr hconstants)
  refine ⟨hpage, hconstants, ?_, hplaces⟩
  intro edge hedge hsource
  obtain ⟨answers, outcome, hleave, _, hplace, _⟩ := hedges edge hedge hsource
  exact ⟨answers, outcome, hleave, hplace⟩

end Form

end PagedForm
