import PagedForm.Navigation.Outcome

/-!
# Previewing a move

One line that tells an author where the current answers of a page lead.
-/

namespace PagedForm.Page

/-- The answer under the field id of a routing, which need not be a text. Lists and records
cannot be looked up. -/
def routedAnswer (routing : Routing) (answers : Answers) : Result Value :=
  match routing.fieldId with
  | .text id => .ok (answers.get id)
  | .list _ => .error .mistyped
  | .record _ => .error .mistyped
  | _ => .ok .null

/-- An answer in a preview: the items of a list joined by commas, anything else as it is
shown. -/
def previewAnswer : Value → Result String
  | .list items => Value.joinTexts ", " items
  | answer => .ok answer.shown

/-- Where the answers of a page lead, in one line. -/
def preview (page : Page) (answers : Answers) : Result String := do
  match page.routing with
  | none => pure "Continue to next page"
  | some routing =>
      let answer ← routedAnswer routing answers
      if isUnanswered answer then pure "No value selected"
      else if (page.field? routing.fieldId).isNone then pure "Navigation field not found"
      else
        let target ← Routing.select page.routing page.fields answers
        let shown ← previewAnswer answer
        pure ("\"" ++ shown ++ "\" -> \"" ++ target.shown ++ "\"")

end PagedForm.Page
