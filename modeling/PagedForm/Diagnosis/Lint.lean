import PagedForm.Form.Basic
import PagedForm.Settings.Basic
import PagedForm.Text.Blank

/-!
# Faulty fields

Mistakes of an author that can be seen in one page: a field without a title, a choice without
options, a file limit above the ceiling of the settings.
-/

namespace PagedForm.Page

/-- A title, or the name of a page, is missing or blank. What counts as true has to be a text. -/
def lacksText (value : Value) : Result Bool :=
  if value.truthy then value.asText.map Text.allBlank else .ok true

/-- The message for a field without a title. -/
def titleMistake (field : Field) : Result (List String) :=
  (lacksText field.title).map fun lacks =>
    if lacks then ["Field \"" ++ field.id ++ "\" needs a title"] else []

/-- The message for a choice without options. -/
def optionsMistake (field : Field) : List String :=
  match field.options? with
  | some [] => ["\"" ++ field.title.shown ++ "\" needs options"]
  | _ => []

/-- The message for a file limit above the ceiling. -/
def sizeMistake (settings : Settings) (field : Field) : Result (List String) :=
  match field.upload? with
  | some spec =>
      if spec.maxSize.truthy then
        match spec.maxSize.above? settings.maxSizeCeiling with
        | some true => .ok ["\"" ++ field.title.shown ++ "\" file size limit too high"]
        | some false => .ok []
        | none => .error .mistyped
      else .ok []
  | none => .ok []

/-- The mistakes in one field. -/
def fieldMistakes (settings : Settings) (field : Field) : Result (List String) := do
  let title ← titleMistake field
  let size ← sizeMistake settings field
  pure (title ++ optionsMistake field ++ size)

/-- The mistakes in the fields of a page, in order. -/
def mistakes (page : Page) (settings : Settings) : Result (List String) :=
  (page.fields.mapM (fieldMistakes settings)).map List.flatten

end PagedForm.Page
