import PagedForm.Form.Document
import PagedForm.Proofs.Field.Defined

/-!
# What a loaded form is made of

A form, a page, a routing or a branch that is read from a document has what the document gives for
each attribute, or what is usual where it gives nothing. The structures of this module say so for
each of them, and the theorems that reading gives nothing else.
-/

namespace PagedForm

/-- A document gives this value for a key, or has no such key and the value is the usual one. -/
def Value.Gives (document : Value) (key : String) (usual value : Value) : Prop :=
  ∃ found, document.look key = .ok found ∧ found.getD usual = value

/-- A branch has what a document gives. -/
structure Branch.IsReadFrom (branch : Branch) (document : Value) : Prop where
  value : document.require "value" = .ok branch.value
  target : document.require "nextStepName" = .ok branch.target

/-- A routing has what a document gives. -/
structure Routing.IsReadFrom (routing : Routing) (document : Value) : Prop where
  fieldId : document.Gives "fieldId" (.text "") routing.fieldId
  branches : ∃ saved items, document.Gives "conditions" (.list []) saved ∧
    saved.elements = .ok items ∧ items.mapM Branch.ofDocument = .ok routing.branches
  defaultTarget : ∃ saved, document.Gives "defaultStepName" .null saved ∧
    routing.defaultTarget = saved.orNull

/-- A page has what a document gives. -/
structure Page.IsReadFrom (page : Page) (document : Value) : Prop where
  id : document.require "id" = .ok page.id
  name : document.Gives "name" (.text "") page.name
  description : document.Gives "description" (.text "") page.description
  fields : ∃ saved items, document.Gives "fields" (.list []) saved ∧
    saved.elements = .ok items ∧ items.mapM Field.ofDocument = .ok page.fields
  actionName : document.Gives "actionName" (.text "") page.actionName
  summaryCheck : ∃ saved, document.Gives "summaryCheckExpression" .null saved ∧
    page.summaryCheck = saved.orElse (.text "true")
  routing : ∃ saved, document.Gives "navigationRule" .null saved ∧
    Routing.ofDocument saved = .ok page.routing

/-- A form has what a document gives. -/
structure Form.IsReadFrom (form : Form) (document : Value) : Prop where
  id : document.Gives "id" .null form.id
  name : document.Gives "name" (.text "") form.name
  description : document.Gives "description" (.text "") form.description
  pages : ∃ saved items, document.Gives "steps" (.list []) saved ∧
    saved.elements = .ok items ∧ items.mapM Page.ofDocument = .ok form.pages
  createdAt : document.Gives "created_at" .null form.createdAt
  updatedAt : document.Gives "updated_at" .null form.updatedAt

variable {document : Value}

/-- A branch is read from what a document gives. -/
theorem Branch.isReadFrom {branch : Branch} (h : ofDocument document = .ok branch) :
    branch.IsReadFrom document := by
  obtain ⟨_, hvalue, h⟩ := Result.bind_eq_ok.1 h
  obtain ⟨_, htarget, h⟩ := Result.bind_eq_ok.1 h
  cases h
  exact ⟨hvalue, htarget⟩

/-- A routing is read from what a document gives. -/
theorem Routing.isReadFrom {routing : Routing} (h : ofDocument document = .ok (some routing)) :
    routing.IsReadFrom document := by
  unfold ofDocument at h
  split at h
  · cases h
  · obtain ⟨fieldId, hfieldId, h⟩ := Result.bind_eq_ok.1 h
    obtain ⟨conditions, hconditions, h⟩ := Result.bind_eq_ok.1 h
    obtain ⟨items, hitems, h⟩ := Result.bind_eq_ok.1 h
    obtain ⟨branches, hbranches, h⟩ := Result.bind_eq_ok.1 h
    obtain ⟨fallback, hfallback, h⟩ := Result.bind_eq_ok.1 h
    cases h
    exact ⟨⟨fieldId, hfieldId, rfl⟩,
      ⟨_, items, ⟨conditions, hconditions, rfl⟩, hitems, hbranches⟩,
      ⟨_, ⟨fallback, hfallback, rfl⟩, rfl⟩⟩

/-- A page is read from what a document gives. -/
theorem Page.isReadFrom {page : Page} (h : ofDocument document = .ok page) :
    page.IsReadFrom document := by
  obtain ⟨id, hid, h⟩ := Result.bind_eq_ok.1 h
  obtain ⟨name, hname, h⟩ := Result.bind_eq_ok.1 h
  obtain ⟨description, hdescription, h⟩ := Result.bind_eq_ok.1 h
  obtain ⟨saved, hsaved, h⟩ := Result.bind_eq_ok.1 h
  obtain ⟨items, hitems, h⟩ := Result.bind_eq_ok.1 h
  obtain ⟨fields, hfields, h⟩ := Result.bind_eq_ok.1 h
  obtain ⟨actionName, hactionName, h⟩ := Result.bind_eq_ok.1 h
  obtain ⟨summaryCheck, hsummaryCheck, h⟩ := Result.bind_eq_ok.1 h
  obtain ⟨rule, hrule, h⟩ := Result.bind_eq_ok.1 h
  obtain ⟨routing, hrouting, h⟩ := Result.bind_eq_ok.1 h
  cases h
  exact
    { id := hid
      name := ⟨name, hname, rfl⟩
      description := ⟨description, hdescription, rfl⟩
      fields := ⟨_, items, ⟨saved, hsaved, rfl⟩, hitems, hfields⟩
      actionName := ⟨actionName, hactionName, rfl⟩
      summaryCheck := ⟨_, ⟨summaryCheck, hsummaryCheck, rfl⟩, rfl⟩
      routing := ⟨_, ⟨rule, hrule, rfl⟩, hrouting⟩ }

/-- A form is read from what a document gives. -/
theorem Form.isReadFrom {form : Form} (h : ofDocument document = .ok form) :
    form.IsReadFrom document := by
  unfold ofDocument at h
  split at h
  · split at h
    · next hrecord =>
        cases h
        obtain ⟨id, hid, h⟩ := Result.bind_eq_ok.1 hrecord
        obtain ⟨name, hname, h⟩ := Result.bind_eq_ok.1 h
        obtain ⟨description, hdescription, h⟩ := Result.bind_eq_ok.1 h
        obtain ⟨saved, hsaved, h⟩ := Result.bind_eq_ok.1 h
        obtain ⟨items, hitems, h⟩ := Result.bind_eq_ok.1 h
        obtain ⟨pages, hpages, h⟩ := Result.bind_eq_ok.1 h
        obtain ⟨createdAt, hcreatedAt, h⟩ := Result.bind_eq_ok.1 h
        obtain ⟨updatedAt, hupdatedAt, h⟩ := Result.bind_eq_ok.1 h
        cases h
        exact
          { id := ⟨id, hid, rfl⟩
            name := ⟨name, hname, rfl⟩
            description := ⟨description, hdescription, rfl⟩
            pages := ⟨_, items, ⟨saved, hsaved, rfl⟩, hitems, hpages⟩
            createdAt := ⟨createdAt, hcreatedAt, rfl⟩
            updatedAt := ⟨updatedAt, hupdatedAt, rfl⟩ }
    · cases h
  · cases h

namespace Field

variable {field : Field}

/-- A field that is read from a saved one is built from the attributes that it gives. -/
theorem exists_build_of_ofDocument (h : ofDocument document = .ok field) :
    ∃ kind id, document.require "id" = .ok id ∧
      build kind (savedAttributes kind id (document.record?.getD [])) = .ok field := by
  unfold ofDocument at h
  obtain ⟨named, _, h⟩ := Result.bind_eq_ok.1 h
  split at h
  · cases h
  · next kind _ =>
      obtain ⟨id, hid, h⟩ := Result.bind_eq_ok.1 h
      exact ⟨kind, id, hid, define_eq_ok.1 h⟩

/-- A field that is read from a saved one can be defined. -/
theorem isDefined_of_ofDocument (h : ofDocument document = .ok field) : field.IsDefined := by
  obtain ⟨_, _, _, hbuild⟩ := exists_build_of_ofDocument h
  exact isDefined_of_build hbuild

end Field

end PagedForm
