import PagedForm.Navigation.Visible
import PagedForm.Routing.Decide

/-!
# Moving between pages

What happens when a page is left: the target that its routing picks is turned into an outcome.
Nothing is guessed while the driver of the routing is unanswered; the move is then blocked.
`advance` first checks that nothing required is missing.
-/

namespace PagedForm

/-- What a move leads to. -/
inductive Outcome where
  /-- The page after the current one. -/
  | next (index : Int)
  /-- The form is finished. -/
  | complete
  /-- The form is ended early. -/
  | ended
  /-- The last page. -/
  | skipped (index : Int)
  /-- The page with the target's name. -/
  | jump (index : Nat) (name : Value)
  /-- No page has the target's name. -/
  | notFound (name : Value)
  /-- Answers are missing. -/
  | blocked (messages : List String)
  deriving Repr

namespace Outcome

/-- The page that is shown next, if the move leads to one. -/
def pageIndex? : Outcome → Option Int
  | .next index => some index
  | .skipped index => some index
  | .jump index _ => some index
  | _ => none

/-- The outcome of a target, among pages with these names, from the page at `current`. -/
def ofTarget (target : Value) (names : List Value) (current : Int) : Outcome :=
  let last : Int := names.length - 1
  if target.isText Target.next then
    if current < last then .next (current + 1) else .complete
  else if target.isText Target.finish then .ended
  else if target.isText Target.last then .skipped last
  else
    match names.zipIdx.find? fun entry => entry.1.same target with
    | some (name, index) => .jump index name
    | none => .notFound target

end Outcome

namespace Page

/-- Where the answers lead from a page, among all pages. -/
def leave (page : Page) (answers : Answers) (pages : List Page) (current : Int) :
    Result Outcome :=
  let names := pages.map Page.name
  match Routing.driver? page.routing page.fields with
  | none => .ok (.ofTarget (.text Target.next) names current)
  | some driver =>
      if isMissing (answers.get driver.id) then .ok (.blocked [requiredMessage driver])
      else
        (Routing.select page.routing page.fields answers).map fun target =>
          .ofTarget target names current

/-- Leave a page when nothing required is missing. -/
def advance (page : Page) (answers : Answers) (pages : List Page) (current : Int) :
    Result Outcome :=
  match page.problems answers with
  | [] => page.leave answers pages current
  | messages => .ok (.blocked messages)

end Page

end PagedForm
