import PagedForm.Field.Document
import PagedForm.Form.Basic

/-!
# Saved forms

A saved form is a record of records. Reading one checks only what its fields need and that the
required keys are present; everything else is kept as it is. A fault of type, a missing key and an
unknown kind are reported as a malformed document, and a field that cannot be defined as an
invalid field.
-/

namespace PagedForm

/-- The saved form of a branch. -/
def Branch.toDocument (branch : Branch) : Value :=
  .fields [("value", branch.value), ("nextStepName", branch.target)]

/-- The branch that a saved one describes. -/
def Branch.ofDocument (document : Value) : Result Branch := do
  let value ← document.require "value"
  let target ← document.require "nextStepName"
  pure ⟨value, target⟩

/-- The saved form of a routing. -/
def Routing.toDocument (routing : Routing) : Value :=
  .fields <|
    [("fieldId", routing.fieldId),
     ("conditions", .list (routing.branches.map Branch.toDocument))] ++
    Field.entryIf routing.defaultTarget.truthy "defaultStepName" routing.defaultTarget

/-- The routing that a saved one describes; nothing describes no routing. -/
def Routing.ofDocument (document : Value) : Result (Option Routing) := do
  if document.isNull then pure none
  else
    let fieldId ← document.look "fieldId"
    let conditions ← document.look "conditions"
    let items ← (conditions.getD (.list [])).elements
    let branches ← items.mapM Branch.ofDocument
    let fallback ← document.look "defaultStepName"
    pure (some ⟨fieldId.getD (.text ""), branches, (fallback.getD .null).orNull⟩)

namespace Page

/-- The saved form of a page. -/
def toDocument (page : Page) : Value :=
  .fields <|
    [("id", page.id), ("name", page.name), ("description", page.description),
     ("fields", .list (page.fields.map Field.toDocument)), ("actionName", page.actionName),
     ("summaryCheckExpression", page.summaryCheck)] ++
    match page.routing with
    | some routing => [("navigationRule", routing.toDocument)]
    | none => []

/-- The page that a saved one describes. -/
def ofDocument (document : Value) : Result Page := do
  let id ← document.require "id"
  let name ← document.look "name"
  let description ← document.look "description"
  let saved ← document.look "fields"
  let items ← (saved.getD (.list [])).elements
  let fields ← items.mapM Field.ofDocument
  let actionName ← document.look "actionName"
  let summaryCheck ← document.look "summaryCheckExpression"
  let rule ← document.look "navigationRule"
  let routing ← Routing.ofDocument (rule.getD .null)
  pure
    { id := id
      name := name.getD (.text "")
      description := description.getD (.text "")
      fields := fields
      actionName := actionName.getD (.text "")
      summaryCheck := (summaryCheck.getD .null).orElse (.text "true")
      routing := routing }

end Page

namespace Form

/-- The saved form of a form. -/
def toDocument (form : Form) : Value :=
  .fields
    [("id", form.id), ("name", form.name), ("description", form.description),
     ("steps", .list (form.pages.map Page.toDocument)), ("created_at", form.createdAt),
     ("updated_at", form.updatedAt)]

/-- The form that a record describes, with the faults of its parts. -/
def ofRecord (document : Value) : Result Form := do
  let id ← document.look "id"
  let name ← document.look "name"
  let description ← document.look "description"
  let saved ← document.look "steps"
  let items ← (saved.getD (.list [])).elements
  let pages ← items.mapM Page.ofDocument
  let createdAt ← document.look "created_at"
  let updatedAt ← document.look "updated_at"
  pure
    { name := name.getD (.text "")
      description := description.getD (.text "")
      pages := pages
      id := id.getD .null
      createdAt := createdAt.getD .null
      updatedAt := updatedAt.getD .null }

/-- The fault of a document with a faulty part. An operation that a value does not have is not a
fault of the document and stays as it is. -/
def documentFault : Fault → Fault
  | .field cause => .document (.badField cause)
  | .value .unsupported => .value .unsupported
  | .value .overflow => .value .overflow
  | .value cause => .document (.malformed cause)
  | other => other

/-- The form that a saved one describes. -/
def ofDocument (document : Value) : Result Form :=
  match document with
  | .record _ =>
      match ofRecord document with
      | .ok form => .ok form
      | .error fault => .error (documentFault fault)
  | _ => .error (.document .notRecord)

end Form

end PagedForm
