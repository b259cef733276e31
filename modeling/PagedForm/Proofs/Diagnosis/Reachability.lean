import PagedForm.Diagnosis.Reach
import PagedForm.Proofs.Navigation.Course

/-!
# The pages that can be reached

A search meets only nodes that can be reached from where it started, and whatever the nodes that it
has reached lead to. `PageGraph.Explores` says so of every moment of it, and every turn keeps this.
When the stack is empty the nodes met are the nodes reached, so these are all that can be reached.
For the graph of a form the walks are those along its edges.
-/

namespace PagedForm

namespace PageGraph

variable {graph : PageGraph}

/-- A node of the graph leads to its successors. -/
def Links (graph : PageGraph) (source node : Nat) : Prop :=
  node ∈ graph.next source

/-- All successors are nodes of the graph. -/
def IsInside (graph : PageGraph) : Prop :=
  ∀ source node, graph.Links source node → node < graph.size

/-! ## The search for what can be reached -/

/-- What holds while a search runs. Where it started from is among the nodes that it has met, it can
reach all of them from there, and it has met whatever the nodes that it has reached lead to. -/
structure Explores (graph : PageGraph) (start : Nat) (search : Worklist) : Prop where
  begun : start ∈ search.reached ∨ start ∈ search.stack
  reached : ∀ node ∈ search.reached, Relation.ReflTransGen graph.Links start node
  stack : ∀ node ∈ search.stack, Relation.ReflTransGen graph.Links start node
  closed : ∀ source ∈ search.reached, ∀ node, graph.Links source node →
    node ∈ search.reached ∨ node ∈ search.stack

/-- On the stack are the nodes that were there and those that were put there. -/
theorem mem_foldl_push {reached nodes stack : List Nat} {node : Nat} :
    node ∈ nodes.foldl (fun stack next => if reached.contains next then stack else next :: stack)
        stack ↔
      node ∈ stack ∨ (node ∈ nodes ∧ node ∉ reached) := by
  induction nodes generalizing stack with
  | nil => simp
  | cons next rest ih =>
      rw [List.foldl_cons, ih]
      by_cases hnext : next ∈ reached
      · simp only [List.contains_iff_mem, hnext, if_true, List.mem_cons]
        refine or_congr_right (and_congr_left fun hnode => ?_)
        exact ⟨.inr, fun h => h.resolve_left fun heq => hnode (heq ▸ hnext)⟩
      · simp only [List.contains_iff_mem, hnext, if_false, List.mem_cons]
        constructor
        · rintro ((rfl | hstack) | ⟨hrest, hnode⟩)
          · exact .inr ⟨.inl rfl, hnext⟩
          · exact .inl hstack
          · exact .inr ⟨.inr hrest, hnode⟩
        · rintro (hstack | ⟨rfl | hrest, hnode⟩)
          · exact .inl (.inr hstack)
          · exact .inl (.inl rfl)
          · exact .inr ⟨hrest, hnode⟩

/-- A turn keeps what holds of a search. -/
theorem Explores.turn {start node : Nat} {reached stack : List Nat}
    (h : graph.Explores start ⟨reached, node :: stack⟩) :
    graph.Explores start (graph.turn reached node stack) := by
  have hnode := h.stack node List.mem_cons_self
  unfold PageGraph.turn
  split
  · next hold =>
      rw [List.contains_iff_mem] at hold
      -- A node that was reached before is among the nodes met without the stack.
      have hmet : ∀ other, other ∈ reached ∨ other ∈ node :: stack →
          other ∈ reached ∨ other ∈ stack := by
        rintro other (hother | hother)
        · exact .inl hother
        · rcases List.mem_cons.1 hother with rfl | hother
          · exact .inl hold
          · exact .inr hother
      exact
        { begun := hmet start h.begun
          reached := h.reached
          stack := fun other hother => h.stack other (List.mem_cons_of_mem _ hother)
          closed := fun source hsource other hlinks =>
            hmet other (h.closed source hsource other hlinks) }
  · have hmet : ∀ other, other ∈ reached ∨ other ∈ node :: stack →
        other ∈ node :: reached ∨ other ∈ stack := by
      rintro other (hother | hother)
      · exact .inl (List.mem_cons_of_mem _ hother)
      · rcases List.mem_cons.1 hother with rfl | hother
        · exact .inl List.mem_cons_self
        · exact .inr hother
    refine ⟨?_, ?_, ?_, ?_⟩
    · exact (hmet start h.begun).imp_right fun hstart => mem_foldl_push.2 (.inl hstart)
    · exact List.forall_mem_cons.2 ⟨hnode, h.reached⟩
    · intro other hother
      rcases mem_foldl_push.1 hother with hother | ⟨hlinks, _⟩
      · exact h.stack other (List.mem_cons_of_mem _ hother)
      · exact hnode.tail hlinks
    · intro source hsource other hlinks
      by_cases hother : other ∈ node :: reached
      · exact .inl hother
      · rcases List.mem_cons.1 hsource with rfl | hsource
        · exact .inr (mem_foldl_push.2 (.inr ⟨hlinks, hother⟩))
        · have hstill := (hmet other (h.closed source hsource other hlinks)).resolve_left hother
          exact .inr (mem_foldl_push.2 (.inl hstill))

/-- A search ends with the stack empty, and what holds of it holds still. -/
theorem Explores.explore {start : Nat} {search : Worklist} (h : graph.Explores start search) :
    graph.Explores start ⟨graph.explore search, []⟩ := by
  fun_induction PageGraph.explore graph search with
  | case1 reached => exact h
  | case2 reached node stack ih => exact ih h.turn

/-- The nodes that are reached from a node are those that can be reached from it. -/
theorem mem_reachable {start node : Nat} :
    node ∈ graph.reachable start ↔ Relation.ReflTransGen graph.Links start node := by
  have hbegin : graph.Explores start ⟨[], [start]⟩ :=
    { begun := .inr (List.mem_singleton_self start)
      reached := fun _ hnode => absurd hnode List.not_mem_nil
      stack := fun other hother => by rw [List.mem_singleton.1 hother]
      closed := fun _ hsource => absurd hsource List.not_mem_nil }
  have hend := hbegin.explore
  refine ⟨hend.reached node, fun h => ?_⟩
  induction h with
  | refl => exact hend.begun.resolve_right List.not_mem_nil
  | tail _ hlinks ih => exact (hend.closed _ ih _ hlinks).resolve_right List.not_mem_nil

end PageGraph

namespace Form

/-- The graph of a form links the places between which edges lead. -/
theorem links_graph (form : Form) : form.graph.Links = form.Leads := by
  funext source place
  exact propext mem_next_graph

/-- The edges of a form stay inside its graph. -/
theorem isInside_graph (form : Form) : form.graph.IsInside := by
  intro source place h
  rw [links_graph] at h
  exact h.lt.2

/-- The sources of the graph are places of pages, since edges linked them. -/
theorem lt_of_mem_sources (form : Form) :
    ∀ source ∈ form.graph.sources, source < form.graph.size := by
  intro source hsource
  obtain ⟨edge, hedge, rfl⟩ := exists_edge_of_mem_sources hsource
  exact (source_of_mem_edges hedge).1

/-- The unreachable places are those of the pages to which no walk along the edges leads from the
first page. -/
theorem mem_unreachable {form : Form} {index : Nat} :
    index ∈ form.unreachable ↔
      index < form.pages.length ∧ ¬ Relation.ReflTransGen form.Leads 0 index := by
  unfold unreachable
  rw [List.mem_filter, List.mem_range]
  rw [Bool.not_eq_true', ← Bool.not_eq_true, List.contains_iff_mem, PageGraph.mem_reachable,
    links_graph]

end Form

end PagedForm
