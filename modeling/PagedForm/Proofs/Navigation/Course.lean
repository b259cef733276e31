import PagedForm.Navigation.Run
import PagedForm.Proofs.Navigation.Edges
import PagedForm.Proofs.Navigation.Leaving
import PagedForm.Proofs.Walk

/-!
# The course of a run

A run moves along the edges of the form. `Form.Allows` says what leaving a page may give according
to the edges alone. Leaving a page gives nothing else, so the pages that a run enters are a walk
along the edges that begins where the run does.
-/

namespace PagedForm

/-- A jump goes to a page that has the name. -/
theorem Outcome.name_of_ofTarget_eq_jump {target name : Value} {names : List Value}
    {current : Int} {index : Nat} (h : ofTarget target names current = .jump index name) :
    names[index]? = some name := by
  unfold ofTarget at h
  dsimp only at h
  split at h
  · split at h <;> cases h
  · split at h
    · cases h
    · split at h
      · cases h
      · split at h
        · next hfound =>
            cases h
            exact List.mem_zipIdx_iff_getElem?.1 (List.mem_of_find?_eq_some hfound)
        · cases h

namespace Form

variable {form : Form}

/-! ## One move -/

/-- What leaving the page at a place may give: answers are missing, or the target of an edge that
leaves the page is turned into an outcome. -/
def Allows (form : Form) (source : Nat) (outcome : Outcome) : Prop :=
  (∃ messages, outcome = .blocked messages) ∨
    ∃ edge ∈ form.edges, edge.source = source ∧
      outcome = .ofTarget edge.target (form.pages.map Page.name) source

/-- Leaving a page gives what the edges allow. -/
theorem leave_allowed {index : Nat} {page : Page} (h : form.pages[index]? = some page)
    (answers : Answers) :
    ∃ outcome, page.leave answers form.pages index = .ok outcome ∧ form.Allows index outcome := by
  rcases page.leave_cases answers form.pages index with
    ⟨driver, _, hleave⟩ | ⟨_, target, htarget, _, hleave⟩
  · exact ⟨_, hleave, .inl ⟨_, rfl⟩⟩
  · -- The target that the routing selects is that of an edge.
    rw [← form.map_target_edgesFrom index, ← filter_source_edges h] at htarget
    obtain ⟨edge, hedge, rfl⟩ := List.mem_map.1 htarget
    rw [List.mem_filter, decide_eq_true_eq] at hedge
    exact ⟨_, hleave, .inr ⟨edge, hedge.1, hedge.2, rfl⟩⟩

/-- The page at a place of the form. -/
theorem pageFrom_of_getElem? {index : Nat} {page : Page}
    (h : form.pages[index]? = some page) : form.pageFrom index = .ok page := by
  have hplace : ¬ (index : Int) < 0 := by omega
  simp only [pageFrom, if_neg hplace, Int.toNat_natCast, h]

/-- Going on from a page gives what the edges allow, whether something required is missing or
not. -/
theorem depart_allowed {place : Nat} (h : place < form.pages.length) (answers : Answers) :
    ∃ outcome, form.depart place answers = .ok outcome ∧ form.Allows place outcome := by
  have hpage := List.getElem?_eq_getElem h
  have hdepart : form.depart place answers =
      form.pages[place].advance answers form.pages place := by
    rw [depart, pageFrom_of_getElem? hpage]
    rfl
  rw [hdepart]
  unfold Page.advance
  split
  · exact leave_allowed hpage answers
  · exact ⟨_, rfl, .inl ⟨_, rfl⟩⟩

/-- An allowed outcome is that answers are missing, or it is covered by an edge that leaves the
page. -/
theorem Allows.covered {source : Nat} {outcome : Outcome} (h : form.Allows source outcome) :
    (∃ messages, outcome = .blocked messages) ∨
      ∃ edge ∈ form.edges, edge.source = source ∧ edge.Covers outcome := by
  refine h.imp_right ?_
  rintro ⟨edge, hedge, rfl, rfl⟩
  obtain ⟨hsource, heq⟩ := source_of_mem_edges hedge
  have hcovers := form.covers_edgeTo hsource edge.target edge.label
  rw [← heq] at hcovers
  exact ⟨edge, hedge, rfl, hcovers⟩

/-- An allowed outcome that leads to a page follows an edge. -/
theorem Allows.leads {source : Nat} {outcome : Outcome} (h : form.Allows source outcome)
    {entered : Int} (hentered : outcome.pageIndex? = some entered) :
    ∃ place : Nat, entered = place ∧ form.Leads source place := by
  rcases h.covered with ⟨messages, rfl⟩ | ⟨edge, hedge, hsource, hcovers⟩
  · cases hentered
  · cases hcovers with
    | @page _ place hplace hdestination =>
        rw [hplace] at hentered
        cases hentered
        exact ⟨place, rfl, edge, hedge, hsource, hdestination⟩
    | notFound => cases hentered
    | complete => cases hentered
    | ended => cases hentered

/-- When an allowed outcome finds no page, an edge has a target that names none. -/
theorem Allows.dangling {source : Nat} {name : Value}
    (h : form.Allows source (.notFound name)) : ∃ edge ∈ form.edges, edge.isDangling = true := by
  rcases h.covered with ⟨messages, hblocked⟩ | ⟨edge, hedge, _, hcovers⟩
  · cases hblocked
  · cases hcovers with
    | page hplace => cases hplace
    | notFound hdangling => exact ⟨edge, hedge, hdangling⟩

/-- An allowed jump goes to a page that has the name. -/
theorem Allows.name_of_jump {source index : Nat} {name : Value}
    (h : form.Allows source (.jump index name)) :
    (form.pages.map Page.name)[index]? = some name := by
  rcases h with ⟨messages, hblocked⟩ | ⟨edge, _, _, hmoved⟩
  · cases hblocked
  · exact Outcome.name_of_ofTarget_eq_jump hmoved.symm

/-! ## Runs -/

/-- A run is a move followed by the run from where the move leads. -/
theorem run_cons {place : Int} {answers : Answers} {rest : List Answers} {outcome : Outcome}
    {outcomes : List Outcome} (hdepart : form.depart place answers = .ok outcome)
    (hrun : form.run (outcome.placeFrom place) rest = .ok outcomes) :
    form.run place (answers :: rest) = .ok (outcome :: outcomes) := by
  rw [run]
  exact Result.bind_eq_ok.2 ⟨outcome, hdepart, Result.bind_eq_ok.2 ⟨outcomes, hrun, rfl⟩⟩

/-- A run from a place of the form has an outcome for every record of answers, each of which the
edges allow at some page, and the pages that it enters are a walk along the edges. -/
theorem run_walks {start : Nat} (h : start < form.pages.length) (records : List Answers) :
    ∃ outcomes places, form.run start records = .ok outcomes ∧
      outcomes.length = records.length ∧
      (∀ outcome ∈ outcomes, ∃ source, form.Allows source outcome) ∧
      outcomes.filterMap Outcome.pageIndex? = places.map Nat.cast ∧
      (start :: places).IsChain form.Leads := by
  induction records generalizing start with
  | nil => exact ⟨[], [], rfl, rfl, by simp, rfl, .singleton start⟩
  | cons answers rest ih =>
      obtain ⟨outcome, hdepart, hallows⟩ := depart_allowed h answers
      cases hindex : outcome.pageIndex? with
      | none =>
          -- The run stays where it is.
          have hplace : outcome.placeFrom start = start := by
            rw [Outcome.placeFrom, hindex, Option.getD_none]
          obtain ⟨outcomes, places, hrun, hlength, hall, hplaces, hchain⟩ := ih h
          rw [← hplace] at hrun
          refine ⟨outcome :: outcomes, places, run_cons hdepart hrun, by simp [hlength],
            List.forall_mem_cons.2 ⟨⟨start, hallows⟩, hall⟩, ?_, hchain⟩
          rw [List.filterMap_cons_none hindex, hplaces]
      | some entered =>
          -- The run goes on from the page that the edge leads to.
          obtain ⟨place, rfl, hleads⟩ := hallows.leads hindex
          have hplace : outcome.placeFrom start = place := by
            rw [Outcome.placeFrom, hindex, Option.getD_some]
          obtain ⟨outcomes, places, hrun, hlength, hall, hplaces, hchain⟩ := ih hleads.lt.2
          rw [← hplace] at hrun
          refine ⟨outcome :: outcomes, place :: places, run_cons hdepart hrun, by simp [hlength],
            List.forall_mem_cons.2 ⟨⟨start, hallows⟩, hall⟩, ?_, hchain.cons_cons hleads⟩
          rw [List.filterMap_cons_some hindex, hplaces, List.map_cons]

end Form

end PagedForm
