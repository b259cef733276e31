import PagedForm.Diagnosis.Reach

/-!
# Cycles among pages

A depth-first search for a closed walk, from every node that has successors. A node that is met
again while the search is still inside it closes a cycle; a node that was left without finding one
is not entered again. The depth is bounded by the number of nodes, since every call enters a new
one.
-/

namespace PagedForm.PageGraph

/-- The state of a search: the nodes entered so far, those of them that it is still inside, and the
cycle once it is found. -/
structure Search where
  entered : List Nat
  active : List Nat
  cycle : Option (List Nat)
  deriving Repr

/-- The part of a path from a node on, closed with that node. -/
def closeAt (path : List Nat) (node : Nat) : List Nat :=
  path.drop (path.idxOf node) ++ [node]

/-- Try the successors of the last node of a path until one closes a cycle. -/
def tryEach (enter : List Nat → List Nat → Nat → Search) (path : List Nat) :
    List Nat → List Nat → List Nat → Search
  | entered, active, [] => ⟨entered, active, none⟩
  | entered, active, node :: rest =>
      if entered.contains node then
        if active.contains node then ⟨entered, active, some (closeAt path node)⟩
        else tryEach enter path entered active rest
      else
        let result := enter entered active node
        match result.cycle with
        | some _ => result
        | none => tryEach enter path result.entered result.active rest

/-- The search is no longer inside a node. -/
def Search.leave (search : Search) (node : Nat) : Search :=
  match search.cycle with
  | some _ => search
  | none => { search with active := search.active.erase node }

/-- Enter a node at the end of a path, and leave it when none of its successors closes a cycle. -/
def searchFrom (graph : PageGraph) :
    (depth : Nat) → (path : List Nat) → (entered active : List Nat) → (node : Nat) → Search
  | 0, _, entered, active, _ => ⟨entered, active, none⟩
  | depth + 1, path, entered, active, node =>
      let path := path ++ [node]
      (tryEach (searchFrom graph depth path) path (node :: entered) (node :: active)
        (graph.next node)).leave node

/-- The first cycle found when the search starts from each of these nodes in turn. -/
def cycleFrom (graph : PageGraph) (entered : List Nat) : List Nat → Option (List Nat)
  | [] => none
  | node :: rest =>
      if entered.contains node then cycleFrom graph entered rest
      else
        let result := graph.searchFrom (graph.size + 1) [] entered [] node
        match result.cycle with
        | some cycle => some cycle
        | none => cycleFrom graph result.entered rest

/-- A cycle of the graph, as its nodes in order with the first repeated at the end. -/
def cycle? (graph : PageGraph) : Option (List Nat) :=
  graph.cycleFrom [] graph.sources

end PagedForm.PageGraph
