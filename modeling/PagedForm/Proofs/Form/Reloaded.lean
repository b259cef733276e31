import PagedForm.Form.Document
import PagedForm.Proofs.Field.Reloaded
import PagedForm.Proofs.Form.Typed

/-!
# Forms that are saved and read again

Besides what becomes of its fields, a page that is read has a summary check, and an empty default
target has become none. `Form.ofDocument_toDocument` says that the document of a form is read as
`Form.reloaded`, whatever its attributes are, as long as its fields can be defined.
-/

namespace PagedForm

/-- A routing after it was saved and read. -/
def Routing.reloaded (routing : Routing) : Routing :=
  { routing with defaultTarget := routing.defaultTarget.orNull }

/-- A page after it was saved and read. -/
def Page.reloaded (page : Page) : Page :=
  { page with
    fields := page.fields.map Field.reloaded
    summaryCheck := page.summaryCheck.orElse (.text "true")
    routing := page.routing.map Routing.reloaded }

/-- A form after it was saved and read. -/
def Form.reloaded (form : Form) : Form :=
  { form with pages := form.pages.map Page.reloaded }

/-- A routing keeps its branches. -/
@[simp] theorem Routing.branches_reloaded (routing : Routing) :
    routing.reloaded.branches = routing.branches := rfl

/-- A page keeps its id. -/
@[simp] theorem Page.id_reloaded (page : Page) : page.reloaded.id = page.id := rfl

/-- A page keeps its name. -/
@[simp] theorem Page.name_reloaded (page : Page) : page.reloaded.name = page.name := rfl

/-- A page keeps its description. -/
@[simp] theorem Page.description_reloaded (page : Page) :
    page.reloaded.description = page.description := rfl

/-- A page keeps the name of its action. -/
@[simp] theorem Page.actionName_reloaded (page : Page) :
    page.reloaded.actionName = page.actionName := rfl

/-- A page has what becomes of its fields. -/
@[simp] theorem Page.fields_reloaded (page : Page) :
    page.reloaded.fields = page.fields.map Field.reloaded := rfl

/-- A page has what becomes of its routing. -/
@[simp] theorem Page.routing_reloaded (page : Page) :
    page.reloaded.routing = page.routing.map Routing.reloaded := rfl

/-- A form keeps its name. -/
@[simp] theorem Form.name_reloaded (form : Form) : form.reloaded.name = form.name := rfl

/-- A form keeps its description. -/
@[simp] theorem Form.description_reloaded (form : Form) :
    form.reloaded.description = form.description := rfl

/-- A form has what becomes of its pages. -/
@[simp] theorem Form.pages_reloaded (form : Form) :
    form.reloaded.pages = form.pages.map Page.reloaded := rfl

/-- A branch is read as it was. -/
theorem Branch.ofDocument_toDocument (branch : Branch) :
    ofDocument branch.toDocument = .ok branch :=
  Result.bind_eq_ok.2 ⟨_, Value.require_fields rfl,
    Result.bind_eq_ok.2 ⟨_, Value.require_fields rfl, rfl⟩⟩

/-- A routing is read from what is saved of it. -/
theorem Routing.ofDocument_toDocument (routing : Routing) :
    ofDocument routing.toDocument = .ok (some routing.reloaded) := by
  have hbranches : (routing.branches.map Branch.toDocument).mapM Branch.ofDocument =
      .ok routing.branches := by
    rw [Result.mapM_map_eq_ok fun branch _ => branch.ofDocument_toDocument, List.map_id']
  have hrecord : ¬ routing.toDocument.isNull = true := fun h => by cases h
  unfold ofDocument
  rw [if_neg hrecord]
  refine Result.bind_eq_ok.2 ⟨some routing.fieldId, Value.look_fields _, ?_⟩
  refine Result.bind_eq_ok.2 ⟨some _, Value.look_fields _, ?_⟩
  refine Result.bind_eq_ok.2 ⟨_, Value.elements_list _, ?_⟩
  refine Result.bind_eq_ok.2 ⟨_, hbranches, ?_⟩
  refine Result.bind_eq_ok.2 ⟨_, Value.look_fields _, ?_⟩
  simp only [Table.find?_append, Field.find?_entryIf]
  simp [Table.find?, reloaded]
  rfl

/-- A saved page has its routing in its last entry, if it has one. -/
theorem Page.savedRouting (page : Page) :
    ∃ rule, page.toDocument.look "navigationRule" = .ok rule ∧
      Routing.ofDocument (rule.getD .null) = .ok (page.routing.map Routing.reloaded) := by
  obtain ⟨id, name, description, fields, actionName, summaryCheck, routing⟩ := page
  cases routing with
  | none => exact ⟨none, Value.look_fields _, rfl⟩
  | some routing => exact ⟨_, Value.look_fields _, routing.ofDocument_toDocument⟩

/-- A page is read from what is saved of it. -/
theorem Page.ofDocument_toDocument {page : Page} (h : ∀ field ∈ page.fields, field.IsDefined) :
    ofDocument page.toDocument = .ok page.reloaded := by
  have hfields : (page.fields.map Field.toDocument).mapM Field.ofDocument =
      .ok (page.fields.map Field.reloaded) :=
    Result.mapM_map_eq_ok fun field hfield => Field.ofDocument_toDocument (h field hfield)
  obtain ⟨rule, hrule, hrouting⟩ := page.savedRouting
  unfold ofDocument
  refine Result.bind_eq_ok.2 ⟨page.id, Value.require_fields rfl, ?_⟩
  refine Result.bind_eq_ok.2 ⟨some page.name, Value.look_fields _, ?_⟩
  refine Result.bind_eq_ok.2 ⟨some page.description, Value.look_fields _, ?_⟩
  refine Result.bind_eq_ok.2 ⟨some _, Value.look_fields _, ?_⟩
  refine Result.bind_eq_ok.2 ⟨_, Value.elements_list _, ?_⟩
  refine Result.bind_eq_ok.2 ⟨_, hfields, ?_⟩
  refine Result.bind_eq_ok.2 ⟨some page.actionName, Value.look_fields _, ?_⟩
  refine Result.bind_eq_ok.2 ⟨some page.summaryCheck, Value.look_fields _, ?_⟩
  refine Result.bind_eq_ok.2 ⟨rule, hrule, ?_⟩
  exact Result.bind_eq_ok.2 ⟨_, hrouting, rfl⟩

namespace Form

/-- A form that is read from a record is read from it as a document. -/
theorem ofDocument_of_ofRecord {entries : List (Atom × Value)} {form : Form}
    (h : ofRecord (.record entries) = .ok form) : ofDocument (.record entries) = .ok form := by
  unfold ofDocument
  dsimp only
  rw [h]

/-- A form is read from its document as the form that it becomes. -/
theorem ofDocument_toDocument {form : Form} (h : form.IsDefined) :
    ofDocument form.toDocument = .ok form.reloaded := by
  have hpages : (form.pages.map Page.toDocument).mapM Page.ofDocument =
      .ok (form.pages.map Page.reloaded) :=
    Result.mapM_map_eq_ok fun page hpage => Page.ofDocument_toDocument (h page hpage)
  have hread : ofRecord form.toDocument = .ok form.reloaded := by
    unfold ofRecord
    refine Result.bind_eq_ok.2 ⟨some form.id, Value.look_fields _, ?_⟩
    refine Result.bind_eq_ok.2 ⟨some form.name, Value.look_fields _, ?_⟩
    refine Result.bind_eq_ok.2 ⟨some form.description, Value.look_fields _, ?_⟩
    refine Result.bind_eq_ok.2 ⟨some _, Value.look_fields _, ?_⟩
    refine Result.bind_eq_ok.2 ⟨_, Value.elements_list _, ?_⟩
    refine Result.bind_eq_ok.2 ⟨_, hpages, ?_⟩
    refine Result.bind_eq_ok.2 ⟨some form.createdAt, Value.look_fields _, ?_⟩
    exact Result.bind_eq_ok.2 ⟨some form.updatedAt, Value.look_fields _, rfl⟩
  exact ofDocument_of_ofRecord hread

end Form

end PagedForm
