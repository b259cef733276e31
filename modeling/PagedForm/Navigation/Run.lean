import PagedForm.Navigation.Outcome

/-!
# Runs

A run leaves one page after the other, each time with a record of answers of its own. It goes on
from the page that an outcome leads to, and from the same page when the outcome leads to none.
-/

namespace PagedForm

/-- The place after a page was left from `current`. -/
def Outcome.placeFrom (outcome : Outcome) (current : Int) : Int :=
  outcome.pageIndex?.getD current

namespace Form

/-- Leave the page at a place with these answers. -/
def depart (form : Form) (place : Int) (answers : Answers) : Result Outcome := do
  let page ← form.pageFrom place
  page.advance answers form.pages place

/-- The outcomes of a run that begins at a place, one for each record of answers. -/
def run (form : Form) (place : Int) : List Answers → Result (List Outcome)
  | [] => .ok []
  | answers :: rest => do
      let outcome ← form.depart place answers
      let outcomes ← form.run (outcome.placeFrom place) rest
      pure (outcome :: outcomes)

end Form

end PagedForm
