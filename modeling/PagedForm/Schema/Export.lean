import PagedForm.Diagnosis.Lint
import PagedForm.Log
import PagedForm.Moment.Basic
import PagedForm.Schema.Compile

/-!
# Exported forms

A whole form is exported as one document: every page compiled on its own, with counts and the kinds
of fields in use. Mistakes in a page do not stop the export; each is noted in the log.
-/

namespace PagedForm

/-- Texts in order without repetition. -/
def sortedTexts (texts : List String) : List String :=
  (texts.eraseDups).mergeSort fun a b => !(b < a)

namespace Form

/-- All fields of a form. -/
def fields (form : Form) : List Field :=
  form.pages.flatMap Page.fields

/-- The names of the kinds in use, in order. -/
def kindNames (form : Form) : List String :=
  sortedTexts (form.fields.map fun field => field.kind.name)

/-- The note of a mistake in an exported page. -/
def exportNote (page : Page) (mistake : String) : LogLine :=
  .warning "formflow.compiler"
    ("Exporting " ++ page.name.shown ++ " with authoring error: " ++ mistake)

/-- One page of an export, with the notes of its mistakes. -/
def exportPage (settings : Settings) (entry : Page × Nat) : Result (Value × List LogLine) := do
  let (page, index) := entry
  let mistakes ← page.mistakes settings
  let compiled ← page.compile settings
  let record := Value.fields
    [("id", page.id), ("name", page.name), ("description", page.description),
     ("order", .int (index + 1)), ("schemas", compiled.toValue)]
  pure (record, mistakes.map (exportNote page))

/-- The description of an exported form; a form without one is described by its length. -/
def exportDescription (form : Form) : Value :=
  form.description.orElse (.text ("Form with " ++ toString form.pages.length ++ " pages"))

/-- The exported form, as of a moment, with the log of the export. -/
def exported (form : Form) (created : Moment) (settings : Settings) :
    Result (Value × List LogLine) := do
  let pages ← form.pages.zipIdx.mapM (exportPage settings)
  let document := Value.fields
    [("name", form.name), ("description", form.exportDescription),
     ("version", settings.exportVersion), ("created", .text created.render),
     ("steps", .list (pages.map Prod.fst)),
     ("metadata", .fields
       [("totalSteps", .int form.pages.length), ("totalFields", .int form.fields.length),
        ("fieldTypes", .texts form.kindNames)])]
  pure (document, pages.flatMap Prod.snd)

end Form

end PagedForm
