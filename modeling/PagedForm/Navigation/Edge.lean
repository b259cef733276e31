import PagedForm.Routing.Decide

/-!
# The graph of pages

Every move that the routing of a form allows, as edges between the places of its pages. A page
whose routing is inert has the single edge to the next page.
-/

namespace PagedForm

/-- A possible move. `destination` is absent when the target ends the form or names no page. -/
structure Edge where
  source : Nat
  destination : Option Nat
  target : Value
  label : String
  deriving Repr

/-- The target of an edge names no page. -/
def Edge.isDangling (edge : Edge) : Bool :=
  edge.destination.isNone && !Target.isWord edge.target

namespace Form

/-- The place that a target leads to from a page. -/
def destination? (form : Form) (source : Nat) (target : Value) : Option Nat :=
  let last := form.pages.length - 1
  if target.isText Target.next then
    if source < last then some (source + 1) else none
  else if target.isText Target.finish then none
  else if target.isText Target.last then some last
  else form.pageIndex? target

/-- The edge for a target. -/
def edgeTo (form : Form) (source : Nat) (target : Value) (label : String) : Edge where
  source := source
  destination := form.destination? source target
  target := target
  label := label

/-- The word between a driver and a constant in a label. -/
def comparatorWord (driver : Field) : String :=
  if driver.isCheckbox then "includes" else "==="

/-- The label of the edge for a branch. -/
def branchLabel (driver : Field) (branch : Branch) : String :=
  driver.id ++ " " ++ comparatorWord driver ++ " " ++ branch.value.shown

/-- The edges that leave a page. -/
def edgesFrom (form : Form) (source : Nat) (page : Page) : List Edge :=
  match Routing.active? page.routing page.fields with
  | some (routing, driver) =>
      routing.branches.map (fun branch =>
        form.edgeTo source branch.target (branchLabel driver branch)) ++
      [form.edgeTo source routing.fallback "default"]
  | none => [form.edgeTo source (.text Target.next) ""]

/-- All edges, page by page. -/
def edges (form : Form) : List Edge :=
  form.pages.zipIdx.flatMap fun entry => form.edgesFrom entry.2 entry.1

/-- The targets of the edges that leave a page are those of its routing. -/
theorem map_target_edgesFrom (form : Form) (source : Nat) (page : Page) :
    (form.edgesFrom source page).map Edge.target =
      Routing.targets page.routing page.fields := by
  cases h : Routing.active? page.routing page.fields with
  | none => simp [edgesFrom, Routing.targets, h, edgeTo]
  | some found => simp [edgesFrom, Routing.targets, h, edgeTo, Function.comp_def]

end Form

end PagedForm
