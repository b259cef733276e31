import PagedForm.Form.Basic

/-!
# An example form

A form for the inspection of a work order. It has a field of every kind, defaults that refer to a
context, a field that depends on another, and a routing to each of the three words and to pages by
name.
-/

namespace PagedForm.Example

/-- A field that is always shown. -/
def field (id title : String) (body : Body) : Field where
  id := id
  title := .text title
  dependsOn := .null
  showWhen := .null
  body := body

/-- The field, shown only while another has an answer. -/
def shownWhen (field : Field) (other answer : String) : Field :=
  { field with dependsOn := .text other, showWhen := .text answer }

/-- An input with this entry. -/
def input (entry : Entry) (required : Bool) : Body :=
  .input ⟨.bool required, .bool false, .absent, entry⟩

/-- An input whose default refers to a context. -/
def prefilled (entry : Entry) (required : Bool) (reference : String) : Body :=
  .input ⟨.bool required, .bool false, .text reference, entry⟩

/-- Options that are texts. -/
def options (items : List String) : List Value :=
  items.map .text

/-- A page of the form. -/
def page (number : Nat) (name description action : String) (fields : List Field)
    (routing : Option Routing) : Page where
  id := .text ("step" ++ toString number)
  name := .text name
  description := .text description
  fields := fields
  actionName := .text action
  summaryCheck := .text "true"
  routing := routing

/-- A routing with one branch. -/
def route (fieldId value target fallback : String) : Option Routing :=
  some ⟨.text fieldId, [⟨.text value, .text target⟩], .text fallback⟩

/-- The first page: is the site accessible? -/
def jobDetails : Page :=
  page 1 "Job Details" "Confirm the work order and site access" "submitJobDetails"
    [field "jobHeading" "Work Order" .title,
     field "scopeOfWork" "Scope of Work" (.readonly (.text "#workorder.scopeOfWork")),
     field "technicianName" "Technician" (prefilled (.text .null) true "#technician.name"),
     field "siteAccess" "Site accessible?" (input (.radio (options ["Yes", "No"])) true),
     shownWhen
       (field "accessNotes" "Why not?"
         (input (.textarea (.text "Describe the problem")) true))
       "siteAccess" "No"]
    (route "siteAccess" "No" "Access Problem" "Inspection")

/-- The page for a failed visit. -/
def accessProblem : Page :=
  page 2 "Access Problem" "Record the failed visit" "submitAccessProblem"
    [field "rescheduled" "Visit rescheduled?" (input (.radio (options ["Yes", "No"])) true),
     shownWhen (field "newDate" "New date" (input (.text .null) false)) "rescheduled" "Yes"]
    (route "rescheduled" "Yes" Target.finish Target.last)

/-- The page for what was found. -/
def inspection : Page :=
  page 3 "Inspection" "What did you find?" "submitInspection"
    [field "issuesFound" "Issues found"
      (input (.checkbox (options ["Electrical", "Plumbing", "Structural"])) true),
     field "sitePhotos" "Site photos"
      (input
        (.file ⟨options ["image/*"], .int 25, .bool true, .text "environment"⟩) false)]
    (route "issuesFound" "Electrical" "Electrical Details" Target.last)

/-- The page for electrical issues. -/
def electricalDetails : Page :=
  page 4 "Electrical Details" "Panel condition" "submitElectrical"
    [field "panelCondition" "Panel condition"
      (input (.select (options ["Good", "Worn", "Damaged"])) true),
     field "electricalNotes" "Notes" (input (.textarea .null) false)]
    none

/-- The last page. -/
def signOff : Page :=
  page 5 "Sign-off" "Client confirmation" "submitSignOff"
    [field "clientName" "Client name" (prefilled (.text .null) true "#client.name"),
     field "followUpNeeded" "Follow-up needed?" (input (.radio (options ["Yes", "No"])) false)]
    none

/-- The example form. -/
def form : Form where
  name := .text "Work Order Inspection"
  description := .text "Site inspection for field technicians"
  pages := [jobDetails, accessProblem, inspection, electricalDetails, signOff]
  id := .null
  createdAt := .null
  updatedAt := .null

end PagedForm.Example
