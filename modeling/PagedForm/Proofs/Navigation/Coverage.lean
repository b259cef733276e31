import PagedForm.Example
import PagedForm.Proofs.Navigation.Course

/-!
# The edges of a form cover its runs

Every outcome of leaving a page is that its answers are missing or is covered by an edge from that
page, and since edges lead to pages of the form, a run stays among its pages.
-/

namespace PagedForm

namespace Form

/-- An outcome of leaving a page is that answers are missing, or it is covered by an edge that
leaves the page. -/
theorem leave_covered {form : Form} {index : Nat} {page : Page}
    (h : form.pages[index]? = some page) (answers : Answers) :
    ∃ outcome, page.leave answers form.pages index = .ok outcome ∧
      ((∃ messages, outcome = .blocked messages) ∨
        ∃ edge ∈ form.edgesFrom index page, edge.Covers outcome) := by
  obtain ⟨outcome, hleave, hallows⟩ := leave_allowed h answers
  refine ⟨outcome, hleave, hallows.covered.imp_right ?_⟩
  rintro ⟨edge, hedge, hsource, hcovers⟩
  rw [← filter_source_edges h]
  exact ⟨edge, List.mem_filter.2 ⟨hedge, decide_eq_true hsource⟩, hcovers⟩

/-- The form has a page at the place. -/
def HasPlace (form : Form) (place : Int) : Prop :=
  0 ≤ place ∧ place < form.pages.length

/-- A run from a place of the form has an outcome for every record of answers, and it enters
places of the form only. -/
theorem run_in_range {form : Form} {place : Int} (h : form.HasPlace place)
    (records : List Answers) :
    ∃ outcomes, form.run place records = .ok outcomes ∧ outcomes.length = records.length ∧
      ∀ entered ∈ outcomes.filterMap Outcome.pageIndex?, form.HasPlace entered := by
  obtain ⟨index, rfl⟩ := Int.eq_ofNat_of_zero_le h.1
  have hindex : index < form.pages.length := Int.ofNat_lt.1 h.2
  obtain ⟨outcomes, places, hrun, hlength, _, hplaces, hwalk⟩ := run_walks hindex records
  refine ⟨outcomes, hrun, hlength, ?_⟩
  have hinside := lt_of_mem_walk (fun _ _ hleads => hleads.lt.2) hindex hwalk
  rw [hplaces, List.forall_mem_map]
  intro entered hentered
  have hlt := hinside entered (List.mem_cons_of_mem index hentered)
  exact ⟨Int.natCast_nonneg entered, Int.ofNat_lt.2 hlt⟩

/-- The edges that leave a page have the targets of its routing, in order. Whatever the answers,
leaving the page gives an outcome, and unless answers are missing one of these edges covers it. So
a run that begins at the page never enters a place that the form does not have. -/
theorem edges_cover_runs {form : Form} {index : Nat} {page : Page}
    (h : form.pages[index]? = some page) :
    (form.edges.filter fun edge => edge.source = index).map Edge.target =
        Routing.targets page.routing page.fields ∧
      (∀ answers, ∃ outcome, page.leave answers form.pages index = .ok outcome ∧
        ((∃ messages, outcome = .blocked messages) ∨
          ∃ edge ∈ form.edges, edge.source = index ∧ edge.Covers outcome)) ∧
      ∀ records, ∃ outcomes, form.run index records = .ok outcomes ∧
        outcomes.length = records.length ∧
        ∀ place ∈ outcomes.filterMap Outcome.pageIndex?, 0 ≤ place ∧ place < form.pages.length := by
  obtain ⟨hindex, _⟩ := List.getElem?_eq_some_iff.1 h
  refine ⟨?_, ?_, ?_⟩
  · rw [filter_source_edges h, map_target_edgesFrom]
  · intro answers
    obtain ⟨outcome, hleave, hcases⟩ := leave_covered h answers
    refine ⟨outcome, hleave, hcases.imp_right ?_⟩
    rintro ⟨edge, hedge, hcovers⟩
    rw [← filter_source_edges h, List.mem_filter, decide_eq_true_eq] at hedge
    exact ⟨edge, hedge.1, hedge.2, hcovers⟩
  · exact run_in_range ⟨Int.natCast_nonneg index, Int.ofNat_lt.2 hindex⟩

/-- The page of the example form that asks for issues: its answers may lead to a page by its name
or to the last page. -/
theorem edges_cover_runs_inspection :
    Example.form.pages[2]? = some Example.inspection ∧
      ∀ records, ∃ outcomes, Example.form.run (2 : Nat) records = .ok outcomes ∧
        outcomes.length = records.length ∧
        ∀ place ∈ outcomes.filterMap Outcome.pageIndex?,
          0 ≤ place ∧ place < Example.form.pages.length :=
  ⟨rfl, (edges_cover_runs rfl).2.2⟩

end Form

end PagedForm
