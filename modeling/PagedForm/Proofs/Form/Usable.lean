import PagedForm.Diagram
import PagedForm.Form.Document
import PagedForm.Proofs.Diagnosis.Findings
import PagedForm.Proofs.Form.Exportable
import PagedForm.Proofs.Form.Typed

/-!
# Which forms can be used

A form can be read from a document whose attributes have any types, and the export, the report and
the diagram rely on the types of some. `Form.outputs_exist_iff` says on which, for each of the
three, and that a typed form is always fit for all of them unless a field has a reserved id or a
size limit cannot be written.
-/

namespace PagedForm

namespace Form

variable {settings : Settings} {form : Form} {mode : DiagramMode}

/-! ## Reports -/

/-- The missing targets can be drawn exactly when they are texts. -/
theorem exists_missingTargets {edges : List Edge} :
    (∃ missing, Diagram.missingTargets edges = .ok missing) ↔
      ∀ edge ∈ edges, edge.isDangling = true → ∃ s, edge.target = .text s := by
  have htexts : (∃ missing, Diagram.missingTargets edges = .ok missing) ↔
      ∃ texts, (edges.filter Edge.isDangling).mapM (fun edge => edge.target.text?) =
        some texts := by
    unfold Diagram.missingTargets
    split
    · next texts htexts => exact ⟨fun _ => ⟨texts, htexts⟩, fun _ => ⟨_, rfl⟩⟩
    · next hnone =>
        constructor
        · rintro ⟨missing, h⟩
          cases h
        · rintro ⟨texts, htexts⟩
          cases hnone.symm.trans htexts
  have htext (edge : Edge) : (∃ s, edge.target.text? = some s) ↔ ∃ s, edge.target = .text s :=
    exists_congr fun s => (Value.text?_eq_some edge.target s).trans eq_comm
  rw [htexts, exists_mapM_eq_some]
  simp only [htext, List.mem_filter, and_imp]

/-- The targets of edges are texts when the attributes of the routings are. -/
theorem HasTextualRoutings.target (h : form.HasTextualRoutings) {edge : Edge}
    (hedge : edge ∈ form.edges) : ∃ s, edge.target = .text s := by
  obtain ⟨⟨page, index⟩, hentry, hedge⟩ := List.mem_flatMap.1 hedge
  have hpage := List.fst_mem_of_mem_zipIdx hentry
  have htarget : edge.target ∈ Routing.targets page.routing page.fields :=
    form.map_target_edgesFrom index page ▸ List.mem_map_of_mem hedge
  unfold Routing.targets at htarget
  split at htarget
  · next r driver hactive =>
      have htextual := h page hpage r (Routing.active?_eq_some hactive).1
      rcases List.mem_append.1 htarget with hbranch | hfallback
      · obtain ⟨branch, hbranch, heq⟩ := List.mem_map.1 hbranch
        rw [← heq]
        exact htextual.target branch hbranch
      · rw [List.mem_singleton.1 hfallback]
        exact htextual.fallback
  · rw [List.mem_singleton.1 htarget]
    exact ⟨_, rfl⟩

/-- The document of a form with one question. -/
def questionDocument (id : String) (answer : Value) : Value :=
  .fields [("steps", .list [.fields
    [("id", .text "s1"), ("name", .text "One"),
     ("fields", .list [.fields
       [("id", .text id), ("type", .text "radio"), ("title", .text "Question"),
        ("options", .texts ["Yes", "No"])]]),
     ("navigationRule", .fields
       [("fieldId", .text id),
        ("conditions", .list [.fields
          [("value", answer), ("nextStepName", .text Target.finish)]])])]])]

/-- The form that is read from this document when the answer is `Yes`. -/
def questionForm (id : String) : Form where
  name := .text ""
  description := .text ""
  pages :=
    [{ id := .text "s1"
       name := .text "One"
       description := .text ""
       fields := [⟨id, .text "Question", .null, .null,
         .input ⟨.bool false, .bool false, .absent, .radio [.text "Yes", .text "No"]⟩⟩]
       actionName := .text ""
       summaryCheck := .text "true"
       routing := some ⟨.text id, [⟨.text "Yes", .text Target.finish⟩], .null⟩ }]
  id := .null
  createdAt := .null
  updatedAt := .null

/-- The form with one question is typed. -/
theorem isTyped_questionForm {id : String} (hid : id ≠ "") : (questionForm id).IsTyped := by
  refine ⟨⟨_, rfl⟩, ⟨_, rfl⟩, List.forall_mem_singleton.2 ?_, .inl rfl, .inl rfl, .inl rfl⟩
  refine ⟨⟨_, rfl⟩, ⟨_, rfl⟩, ⟨_, rfl⟩, List.forall_mem_singleton.2 ?_, ⟨_, rfl⟩, ⟨_, rfl⟩, ?_⟩
  · refine Field.isTyped_iff.2 ⟨⟨hid, .absent _⟩, ⟨_, rfl⟩, .inl rfl, .inl rfl, ?_⟩
    intro i hbody
    cases hbody
    exact ⟨⟨false, rfl⟩, ⟨false, rfl⟩, List.forall_mem_singleton.2 ⟨["Yes", "No"], rfl⟩⟩
  · intro routing hrouting
    cases hrouting
    exact ⟨⟨List.forall_mem_singleton.2 ⟨_, rfl⟩, List.forall_mem_singleton.2 ⟨_, rfl⟩,
      .inl rfl⟩, ⟨_, rfl⟩⟩

/-- A document whose attributes all have their types is read, and its form cannot be exported,
since the id of its field takes over the order. -/
theorem read_not_exported_reserved :
    ofDocument (questionDocument Presentation.orderKey (.text "Yes")) =
        .ok (questionForm Presentation.orderKey) ∧
      (questionForm Presentation.orderKey).IsTyped ∧
      ∀ created, (questionForm Presentation.orderKey).exported created .standard =
        .error .unsupported :=
  ⟨rfl, isTyped_questionForm (by decide), fun _ => rfl⟩

end Form

end PagedForm
