import PagedForm.Form.Basic

/-!
# Visible fields

A field may depend on the answer of another field of its page. While that answer is not the one
that shows it, the field is hidden and does not have to be answered.
-/

namespace PagedForm

/-- An answer that shows nothing that depends on it. -/
def isUnanswered : Value → Bool
  | .null => true
  | .text s => s.isEmpty
  | _ => false

namespace Page

/-- The answer of a driver shows what waits for `expected`: a checkbox has to hold it, any other
answer has to be it. -/
def shows (driver : Field) (answer expected : Value) : Bool :=
  if isUnanswered answer then false
  else if driver.isCheckbox then
    match answer with
    | .list items => expected.isIn items
    | _ => false
  else answer.same expected

/-- A field is visible for given answers. Without a complete dependency it always is; with one
that names no field of the page it never is. -/
def isVisible (page : Page) (answers : Answers) (field : Field) : Bool :=
  if !field.dependsOn.truthy || !field.showWhen.truthy then true
  else
    match page.field? field.dependsOn with
    | none => false
    | some driver => shows driver (answers.get driver.id) field.showWhen

/-- The visible fields in order. -/
def visibleFields (page : Page) (answers : Answers) : List Field :=
  page.fields.filter (page.isVisible answers)

/-- The message for an answer that has to be given. -/
def requiredMessage (field : Field) : String :=
  "\"" ++ field.title.shown ++ "\" is required"

/-- The field has to be answered and is not: it is required and visible, and its answer is
missing. -/
def lacksAnswer (page : Page) (answers : Answers) (field : Field) : Bool :=
  field.isAnswerable && field.required.truthy && page.isVisible answers field &&
    isMissing (answers.get field.id)

/-- The messages for the answers that have to be given, in the order of the fields. -/
def problems (page : Page) (answers : Answers) : List String :=
  (page.fields.filter (page.lacksAnswer answers)).map requiredMessage

end Page

end PagedForm
