import PagedForm.Navigation.Edge

/-!
# Reachable pages

The pages that can be reached from the first one along the edges of a form. A search keeps a stack
of nodes that it still has to look at, and every turn of it takes the top one. `mem_next_graph` says
that the successors of a page are where its edges lead, and `pending_turn` why the search ends.
-/

namespace PagedForm

/-- A graph on the numbers below its size. The links are the successors of the nodes that have some,
a node once and in the order in which the nodes were linked. -/
structure PageGraph where
  size : Nat
  links : List (Nat × List Nat)
  deriving Repr

namespace PageGraph

/-! ## Links -/

/-- The successors of a node, in the order in which they were linked. -/
def successors (node : Nat) : List (Nat × List Nat) → List Nat
  | [] => []
  | (source, nodes) :: rest => if source = node then nodes else successors node rest

/-- Link a node to another one, unless it is linked to it already. -/
def link (source node : Nat) : List (Nat × List Nat) → List (Nat × List Nat)
  | [] => [(source, [node])]
  | (first, nodes) :: rest =>
      if first = source then (first, if nodes.contains node then nodes else nodes ++ [node]) :: rest
      else (first, nodes) :: link source node rest

/-- A link adds one successor to one node. -/
theorem mem_successors_link {source node other next : Nat} {links : List (Nat × List Nat)} :
    next ∈ successors other (link source node links) ↔
      next ∈ successors other links ∨ (other = source ∧ next = node) := by
  induction links with
  | nil =>
      by_cases hother : source = other
      · simp [link, successors, hother]
      · simp [link, successors, hother, Ne.symm hother]
  | cons entry rest ih =>
      obtain ⟨first, nodes⟩ := entry
      by_cases hsource : first = source
      · subst hsource
        by_cases hother : first = other
        · subst hother
          by_cases hthere : node ∈ nodes
          · simp only [link, successors, List.contains_iff_mem, hthere, if_true, true_and]
            exact ⟨.inl, fun h => h.elim id fun hnode => hnode ▸ hthere⟩
          · simp [link, successors, hthere]
        · simp [link, successors, hother, Ne.symm hother]
      · by_cases hother : first = other
        · subst hother
          simp [link, successors, hsource]
        · simp [link, successors, hsource, hother, ih]

/-- A link makes its first node a source. -/
theorem mem_fst_link {source node other : Nat} {links : List (Nat × List Nat)} :
    other ∈ (link source node links).map Prod.fst ↔
      other ∈ links.map Prod.fst ∨ other = source := by
  induction links with
  | nil => simp [link]
  | cons entry rest ih =>
      by_cases hsource : entry.1 = source
      · simp only [link, hsource, if_true, List.map_cons, List.mem_cons]
        exact ⟨.inl, fun h => h.elim id .inl⟩
      · simp only [link, hsource, if_false, List.map_cons, List.mem_cons, ih, or_assoc]

/-- The successors of a node of the graph. -/
def next (graph : PageGraph) (node : Nat) : List Nat :=
  successors node graph.links

/-- The nodes that have successors. -/
def sources (graph : PageGraph) : List Nat :=
  graph.links.map Prod.fst

/-- A node that has a successor is one of the sources. -/
theorem mem_sources {graph : PageGraph} {source node : Nat} (h : node ∈ graph.next source) :
    source ∈ graph.sources := by
  unfold next at h
  unfold sources
  generalize graph.links = links at h ⊢
  induction links with
  | nil => cases h
  | cons entry rest ih =>
      rw [successors] at h
      split at h
      · next hfirst => exact List.mem_cons.2 (.inl hfirst.symm)
      · exact List.mem_cons_of_mem _ (ih h)

/-! ## The search -/

/-- How far a search has come: the nodes it has reached, and those it still has to look at, the top
one first. -/
structure Worklist where
  reached : List Nat
  stack : List Nat

/-- One turn, with the node that was on top of the stack. A node that was not reached before is
reached now, and its successors that were not are put on the stack one by one. -/
def turn (graph : PageGraph) (reached : List Nat) (node : Nat) (stack : List Nat) : Worklist :=
  if reached.contains node then ⟨reached, stack⟩
  else
    let reached := node :: reached
    ⟨reached,
      (graph.next node).foldl
        (fun stack next => if reached.contains next then stack else next :: stack) stack⟩

/-- How many successors the nodes have that were not reached. -/
def unseen (reached : List Nat) : List (Nat × List Nat) → Nat
  | [] => 0
  | (source, nodes) :: rest =>
      (if reached.contains source then 0 else nodes.length) + unseen reached rest

/-- How many nodes may still come up on top of the stack. -/
def pending (graph : PageGraph) (search : Worklist) : Nat :=
  unseen search.reached graph.links + search.stack.length

/-- A successor that is put on the stack makes it longer by one. -/
theorem length_foldl_push (reached nodes stack : List Nat) :
    (nodes.foldl (fun stack next => if reached.contains next then stack else next :: stack)
      stack).length ≤ nodes.length + stack.length := by
  induction nodes generalizing stack with
  | nil => simp
  | cons next rest ih =>
      rw [List.foldl_cons, List.length_cons]
      have hrest := ih (if reached.contains next then stack else next :: stack)
      split at hrest
      · next hreached =>
          rw [if_pos hreached]
          omega
      · next hreached =>
          rw [if_neg hreached]
          rw [List.length_cons] at hrest
          omega

/-- No more is unseen after one more node was reached. -/
theorem unseen_cons_le (node : Nat) (reached : List Nat) (links : List (Nat × List Nat)) :
    unseen (node :: reached) links ≤ unseen reached links := by
  induction links with
  | nil => exact Nat.le_refl 0
  | cons entry rest ih =>
      obtain ⟨source, nodes⟩ := entry
      rw [unseen, unseen]
      by_cases hsource : reached.contains source = true
      · have hstill : (node :: reached).contains source = true :=
          List.contains_iff_mem.2 (List.mem_cons_of_mem _ (List.contains_iff_mem.1 hsource))
        rw [if_pos hsource, if_pos hstill]
        omega
      · rw [if_neg hsource]
        split <;> omega

/-- The successors of a node are not unseen any more after it was reached. -/
theorem unseen_cons {node : Nat} {reached : List Nat} (hnew : ¬ reached.contains node = true)
    (links : List (Nat × List Nat)) :
    unseen (node :: reached) links + (successors node links).length ≤ unseen reached links := by
  induction links with
  | nil => exact Nat.le_refl 0
  | cons entry rest ih =>
      obtain ⟨source, nodes⟩ := entry
      rw [successors, unseen, unseen]
      by_cases hsource : source = node
      · subst hsource
        have hrest := unseen_cons_le source reached rest
        simp only [if_pos, if_neg hnew, List.contains_cons, beq_self_eq_true, Bool.true_or]
        omega
      · have hsame : (node :: reached).contains source = reached.contains source := by
          simp [hsource]
        rw [if_neg hsource, hsame]
        omega

/-- Less is pending after a turn. -/
theorem pending_turn (graph : PageGraph) (reached : List Nat) (node : Nat) (stack : List Nat) :
    graph.pending (graph.turn reached node stack) < graph.pending ⟨reached, node :: stack⟩ := by
  unfold pending turn
  split
  · simp
  · next hnew =>
      have hunseen := unseen_cons hnew graph.links
      have hpushed := length_foldl_push (node :: reached) (graph.next node) stack
      rw [next] at hpushed
      simp only [next, List.length_cons]
      omega

/-- The nodes that are reached when the stack is empty. -/
def explore (graph : PageGraph) (search : Worklist) : List Nat :=
  match search with
  | ⟨reached, []⟩ => reached
  | ⟨reached, node :: stack⟩ => graph.explore (graph.turn reached node stack)
termination_by graph.pending search
decreasing_by exact pending_turn graph reached node stack

/-- The nodes that can be reached from a node. -/
def reachable (graph : PageGraph) (start : Nat) : List Nat :=
  graph.explore ⟨[], [start]⟩

end PageGraph

namespace Form

/-- An edge with a destination links two pages. -/
def linkEdge (links : List (Nat × List Nat)) (edge : Edge) : List (Nat × List Nat) :=
  match edge.destination with
  | some node => PageGraph.link edge.source node links
  | none => links

/-- The graph of a form's pages, linked by its edges one by one. -/
def graph (form : Form) : PageGraph where
  size := form.pages.length
  links := form.edges.foldl linkEdge []

/-- The successors of a page are where its edges lead. -/
theorem mem_next_graph {form : Form} {source node : Nat} :
    node ∈ form.graph.next source ↔
      ∃ edge ∈ form.edges, edge.source = source ∧ edge.destination = some node := by
  unfold PageGraph.next graph
  -- The links so far are those of the edges that were gone through.
  suffices h : ∀ links, node ∈ PageGraph.successors source (form.edges.foldl linkEdge links) ↔
      node ∈ PageGraph.successors source links ∨
        ∃ edge ∈ form.edges, edge.source = source ∧ edge.destination = some node by
    simpa [PageGraph.successors] using h []
  induction form.edges with
  | nil => simp
  | cons edge rest ih =>
      intro links
      rw [List.foldl_cons, ih]
      cases hdestination : edge.destination with
      | none => simp [linkEdge, hdestination]
      | some place =>
          simp [linkEdge, PageGraph.mem_successors_link, hdestination, or_assoc, eq_comm]

/-- A source of the graph is one of an edge. -/
theorem exists_edge_of_mem_sources {form : Form} {source : Nat} (h : source ∈ form.graph.sources) :
    ∃ edge ∈ form.edges, edge.source = source := by
  unfold PageGraph.sources graph at h
  suffices hlinks : ∀ links, source ∈ (form.edges.foldl linkEdge links).map Prod.fst →
      source ∈ links.map Prod.fst ∨ ∃ edge ∈ form.edges, edge.source = source from
    (hlinks [] h).resolve_left List.not_mem_nil
  clear h
  induction form.edges with
  | nil => exact fun links h => .inl h
  | cons edge rest ih =>
      intro links h
      rw [List.foldl_cons] at h
      rcases ih _ h with hlinked | ⟨other, hother, heq⟩
      · unfold linkEdge at hlinked
        split at hlinked
        · rcases PageGraph.mem_fst_link.1 hlinked with hbefore | heq
          · exact .inl hbefore
          · exact .inr ⟨edge, List.mem_cons_self, heq.symm⟩
        · exact .inl hlinked
      · exact .inr ⟨other, List.mem_cons_of_mem _ hother, heq⟩

/-- The places of the pages that cannot be reached from the first one. -/
def unreachable (form : Form) : List Nat :=
  let reached := form.graph.reachable 0
  (List.range form.pages.length).filter fun index => !reached.contains index

end Form

end PagedForm
