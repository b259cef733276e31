import PagedForm.Routing.Decide

/-!
# What a routing selects

Selecting a target never fails, and the target is one that the routing names. When the attributes
of a routing are texts its decision is textual, so that it can be written and read back, and the
target is a text.
-/

namespace PagedForm

/-- The attributes of a routing are texts; the default target may be absent. -/
structure Routing.IsTextual (routing : Routing) : Prop where
  value : ∀ branch ∈ routing.branches, ∃ s, branch.value = .text s
  target : ∀ branch ∈ routing.branches, ∃ s, branch.target = .text s
  default : routing.defaultTarget = .null ∨ ∃ s, routing.defaultTarget = .text s

/-- The attributes of all routings of a form are texts. -/
def Form.HasTextualRoutings (form : Form) : Prop :=
  ∀ page ∈ form.pages, ∀ routing ∈ page.routing, routing.IsTextual

namespace Routing

/-- The driver of a routing that is not inert is the field of the page that the routing names. -/
theorem driverAmong?_eq (routing : Routing) (page : Page) :
    routing.driverAmong? page.fields =
      if !routing.fieldId.truthy || routing.branches.isEmpty then none
      else page.field? routing.fieldId := by
  unfold driverAmong? Page.field?
  split
  · rfl
  · cases routing.fieldId <;> rfl

/-- An active routing is the routing itself, and its driver is a field that it names. -/
theorem active?_eq_some {routing : Option Routing} {fields : List Field}
    {found : Routing × Field} (h : active? routing fields = some found) :
    found.1 ∈ routing ∧ found.2 ∈ fields ∧ found.1.fieldId = .text found.2.id := by
  obtain ⟨r, hr, hamong⟩ := Option.bind_eq_some_iff.1 h
  obtain ⟨driver, hdriver, rfl⟩ := Option.map_eq_some_iff.1 hamong
  refine ⟨hr, ?_⟩
  unfold driverAmong? at hdriver
  split at hdriver
  · cases hdriver
  · split at hdriver
    · next id hid =>
        have hname : driver.id = id := by simpa using List.find?_some hdriver
        exact ⟨List.mem_of_find?_eq_some hdriver, hname ▸ hid⟩
    · cases hdriver

/-- A target is selected for all answers, and it is one of the targets of the routing. -/
theorem select_mem_targets (routing : Option Routing) (fields : List Field) (answers : Answers) :
    ∃ target ∈ targets routing fields, select routing fields answers = .ok target := by
  unfold targets select decision
  cases active? routing fields with
  | none => exact ⟨.text Target.next, List.mem_singleton.2 rfl, rfl⟩
  | some found =>
      obtain ⟨r, driver⟩ := found
      dsimp only
      rw [eval_chain]
      refine ⟨_, ?_, rfl⟩
      cases hfind : r.branches.find? fun branch =>
          Test.holds ⟨comparatorFor driver, driver.id, branch.value⟩ answers with
      | none => simp
      | some branch =>
          have hbranch := List.mem_of_find?_eq_some hfind
          exact List.mem_append_left _ (List.mem_map_of_mem hbranch)

/-- A routing without a driver selects the next page. -/
theorem select_of_no_driver {routing : Option Routing} {fields : List Field}
    (h : driver? routing fields = none) (answers : Answers) :
    select routing fields answers = .ok (.text Target.next) := by
  rw [driver?, Option.map_eq_none_iff] at h
  rw [select, decision, h]
  rfl

/-- The fallback of a textual routing is a text. -/
theorem IsTextual.fallback {routing : Routing} (h : routing.IsTextual) :
    ∃ s, routing.fallback = .text s := by
  unfold Routing.fallback Value.orElse
  rcases h.default with hdefault | ⟨s, hdefault⟩
  · rw [hdefault]
    exact ⟨Target.next, rfl⟩
  · rw [hdefault]
    split
    · exact ⟨s, rfl⟩
    · exact ⟨Target.next, rfl⟩

/-- A choice among texts with a text as fallback is textual. -/
theorem textual_chain (comparator : Comparator) (field : String) {fallback : Value}
    {branches : List Branch} (hfallback : ∃ s, fallback = .text s)
    (hvalue : ∀ branch ∈ branches, ∃ s, branch.value = .text s)
    (htarget : ∀ branch ∈ branches, ∃ s, branch.target = .text s) :
    (chain comparator field fallback branches).Textual := by
  induction branches with
  | nil =>
      obtain ⟨s, rfl⟩ := hfallback
      exact .literal s
  | cons branch rest ih =>
      rw [List.forall_mem_cons] at hvalue htarget
      obtain ⟨⟨value, hbranch⟩, hvalue⟩ := hvalue
      obtain ⟨⟨target, hto⟩, htarget⟩ := htarget
      rw [chain, hbranch, hto]
      exact .choose comparator field value (.literal target) (ih hvalue htarget)

/-- The decision of a textual routing is textual. -/
theorem textual_decision {routing : Option Routing} (h : ∀ r ∈ routing, r.IsTextual)
    (fields : List Field) : (decision routing fields).Textual := by
  unfold decision
  split
  · next r driver hactive =>
      have htextual := h r (active?_eq_some hactive).1
      exact textual_chain _ _ htextual.fallback htextual.value htextual.target
  · exact .literal Target.next

end Routing

end PagedForm
