import PagedForm.Routing.Decide
import PagedForm.Schema.Data
import PagedForm.Schema.Presentation

/-!
# Compiled pages

A page is compiled into four parts: the schema of its answers, the schema of its presentation, the
answers it starts with, and its action with the written decision of its routing. Headings appear
in none of them.
-/

namespace PagedForm

/-- What the surrounding system does when a page is submitted. -/
structure Action where
  name : Value
  summaryCheck : Value
  next : String
  deriving Repr

/-- A compiled page. -/
structure CompiledPage where
  data : DataSchema
  presentation : Presentation
  answers : Answers
  action : Action
  totalFields : Nat
  requiredFields : Nat
  deriving Repr

/-- The action of a page. -/
def Action.ofPage (page : Page) : Result Action :=
  (Routing.expression page.routing page.fields).map fun next =>
    { name := page.actionName
      summaryCheck := page.summaryCheck.orElse (.text "true")
      next := next }

/-- The action as a record. -/
def Action.toValue (action : Action) : Value :=
  .fields
    [("actionName", action.name), ("summaryCheckExpression", action.summaryCheck),
     ("nextFlowDeterminationExpression", .text action.next)]

/-- Compile a page. -/
def Page.compile (page : Page) (settings : Settings) : Result CompiledPage := do
  let data ← DataSchema.ofPage page settings
  let presentation ← Presentation.ofPage page settings
  let action ← Action.ofPage page
  pure
    { data := data
      presentation := presentation
      answers := Answers.initial page.fields
      action := action
      totalFields := page.fields.length
      requiredFields := page.fields.countP fun field => field.required.truthy }

namespace CompiledPage

/-- The four parts of a compiled page. -/
def parts (compiled : CompiledPage) : List (String × Value) :=
  [("jsonSchema", compiled.data.toValue), ("uiSchema", compiled.presentation.toValue),
   ("formData", .fields compiled.answers), ("actionSchema", compiled.action.toValue)]

/-- A compiled page as a record of its parts. -/
def toValue (compiled : CompiledPage) : Value :=
  .fields compiled.parts

/-- A compiled page as a record of its parts and the counts of its fields. -/
def toOutput (compiled : CompiledPage) : Value :=
  .fields <|
    compiled.parts ++
    [("totalFields", .int compiled.totalFields), ("requiredFields", .int compiled.requiredFields)]

end CompiledPage

end PagedForm
