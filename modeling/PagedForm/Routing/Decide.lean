import PagedForm.Decision.Render
import PagedForm.Form.Basic

/-!
# What a routing decides

A routing reads the answer of one field of its page, its driver. It is compiled into a decision
once, and both the written form and the target picked for given answers come from that decision.
A routing without branches or without a driver is inert and leads to the next page.
-/

namespace PagedForm.Routing

/-- The field whose answer a routing reads, unless the routing is inert. -/
def driverAmong? (routing : Routing) (fields : List Field) : Option Field :=
  if !routing.fieldId.truthy || routing.branches.isEmpty then none
  else
    match routing.fieldId with
    | .text id => fields.find? fun field => field.id = id
    | _ => none

/-- A routing that is not inert, with its driver. -/
def active? (routing : Option Routing) (fields : List Field) : Option (Routing × Field) :=
  routing.bind fun r => (r.driverAmong? fields).map fun driver => (r, driver)

/-- The driver of a page's routing, if it has one. -/
def driver? (routing : Option Routing) (fields : List Field) : Option Field :=
  (active? routing fields).map Prod.snd

/-- How the answer of a driver is put to a constant: the options of a checkbox are looked
through, and any other answer is compared. -/
def comparatorFor (driver : Field) : Comparator :=
  if driver.isCheckbox then .includes else .equals

/-- The choice between the branches, in order, and the fallback last. -/
def chain (comparator : Comparator) (field : String) (fallback : Value) :
    List Branch → Decision
  | [] => .literal fallback
  | branch :: rest =>
      .choose (.test ⟨comparator, field, branch.value⟩) (.literal branch.target)
        (chain comparator field fallback rest)

/-- The decision of a routing among the fields of its page. -/
def decision (routing : Option Routing) (fields : List Field) : Decision :=
  match active? routing fields with
  | some (r, driver) => chain (comparatorFor driver) driver.id r.fallback r.branches
  | none => .literal (.text Target.next)

/-- The written form of the decision. -/
def expression (routing : Option Routing) (fields : List Field) : Result String :=
  (decision routing fields).render

/-- The target that the decision picks for given answers. -/
def select (routing : Option Routing) (fields : List Field) (answers : Answers) : Result Value :=
  (decision routing fields).eval answers

/-- Every target that can be picked: those of the branches in order, and the fallback last. -/
def targets (routing : Option Routing) (fields : List Field) : List Value :=
  match active? routing fields with
  | some (r, _) => r.branches.map Branch.target ++ [r.fallback]
  | none => [.text Target.next]

/-- A chain picks the target of the first branch whose test holds, else the fallback. -/
theorem eval_chain (comparator : Comparator) (field : String) (fallback : Value)
    (branches : List Branch) (answers : Answers) :
    (chain comparator field fallback branches).eval answers =
      .ok (((branches.find? fun branch =>
        Test.holds ⟨comparator, field, branch.value⟩ answers).map Branch.target).getD
          fallback) := by
  induction branches with
  | nil => rfl
  | cons branch rest ih =>
      simp only [chain, Decision.eval, List.find?_cons]
      split
      · next h => simp [h]
      · next h => simp [h, ih]

end PagedForm.Routing
