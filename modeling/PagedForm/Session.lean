import PagedForm.Navigation.Preview
import PagedForm.Navigation.Run

/-!
# Sessions

A session is the place of a person in a form with the answers given so far. Answers are kept when
pages are left; the place changes only by moves that lead to a page. A session may begin at a place that is
counted from the end; it moves on from there as from a place before the first page.
-/

namespace PagedForm

/-- The place in a form and the answers given so far. -/
structure Session where
  index : Int
  answers : Answers
  deriving Repr

/-- What can happen in a session. -/
inductive Event where
  | answer (answers : Answers)
  | clear (ids : List String)
  | defaults
  | advance
  deriving Repr

namespace Session

/-- A session that begins at a page without answers. -/
def start (index : Int) : Session :=
  ⟨index, []⟩

/-- The current page of a form. -/
def page (session : Session) (form : Form) : Result Page :=
  form.pageFrom session.index

/-- The session after the outcome of a move. -/
def follow (session : Session) (outcome : Outcome) : Session :=
  match outcome.pageIndex? with
  | some index => { session with index := index }
  | none => session

/-- The session after an event, with the outcome if the event was a move. -/
def step (session : Session) (form : Form) : Event → Result (Session × Option Outcome)
  | .answer answers => .ok ({ session with answers := session.answers.merge answers }, none)
  | .clear ids =>
      .ok ({ session with answers := ids.foldl (fun acc id => acc.erase id) session.answers },
        none)
  | .defaults => do
      let page ← session.page form
      pure ({ session with answers := session.answers.merge (Answers.initial page.fields) }, none)
  | .advance => do
      let outcome ← form.depart session.index session.answers
      pure (session.follow outcome, some outcome)

end Session

end PagedForm
