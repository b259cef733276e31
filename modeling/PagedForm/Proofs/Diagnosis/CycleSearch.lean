import PagedForm.Diagnosis.Cycle
import PagedForm.Proofs.Diagnosis.Reachability

/-!
# The search for a cycle

While the search runs, the nodes it has entered are those on its path and those that it is done
with, and it is inside those on its path. `Searching` says what holds of them: the path is a walk
that meets no node twice, and a node that the search is done with leads to such nodes only and
cannot be reached from itself. Trying the successors of a node either finds a cycle or is done with
all of them and inside the same nodes as before. A node without successors is on no cycle, so the
whole search, which begins from the others, either finds a cycle or shows that there is none.
-/

namespace PagedForm

namespace PageGraph

/-- A cycle: a closed walk that meets no node twice, but for the one at its ends. -/
structure IsCycle (graph : PageGraph) (cycle : List Nat) : Prop where
  closed : IsClosedWalk graph.Links cycle
  simple : cycle.dropLast.Nodup

/-- The search has entered the node and left it again. -/
def IsDone (path entered : List Nat) (node : Nat) : Prop :=
  node ∈ entered ∧ node ∉ path

/-- The nodes that the search is done with lead to each other only, and none can be reached from
itself. -/
def IsSettled (graph : PageGraph) (path entered : List Nat) : Prop :=
  ∀ node, IsDone path entered node →
    (∀ next ∈ graph.next node, IsDone path entered next) ∧
      ¬ Relation.TransGen graph.Links node node

/-- What holds while the search runs: its path is a walk without repetition through nodes that it
has entered, it is inside the nodes of its path and no others, and the other nodes that it has
entered are settled. -/
structure Searching (graph : PageGraph) (path entered active : List Nat) : Prop where
  chain : path.IsChain graph.Links
  nodup : path.Nodup
  inside : ∀ node ∈ path, node < graph.size
  onPath : path ⊆ entered
  active : ∀ node, node ∈ active ↔ node ∈ path
  settled : graph.IsSettled path entered

/-- What trying some nodes from the end of a path results in: a cycle, or more nodes that are
settled, among them those that were tried, with the search inside the same nodes as before. -/
inductive Tried (graph : PageGraph) (path entered active nodes : List Nat) : Search → Prop where
  | found {after inside cycle : List Nat} : graph.IsCycle cycle →
      Tried graph path entered active nodes ⟨after, inside, some cycle⟩
  | done {after : List Nat} : entered ⊆ after → graph.IsSettled path after →
      (∀ node ∈ nodes, IsDone path after node) →
      Tried graph path entered active nodes ⟨after, active, none⟩

variable {graph : PageGraph} {path entered active : List Nat}

/-! ## Closing a cycle -/

/-- The part of a path from a node on begins with the node. -/
theorem drop_idxOf {node : Nat} (h : node ∈ path) :
    path.drop (path.idxOf node) = node :: path.drop (path.idxOf node + 1) := by
  have hplace := List.idxOf_lt_length_iff.2 h
  rw [List.drop_eq_getElem_cons hplace, List.getElem_idxOf]

/-- A path without repetition is closed to a cycle by a node that is on it. -/
theorem isCycle_closeAt (hnodup : path.Nodup) {node : Nat} (hnode : node ∈ path)
    (hwalk : (path ++ [node]).IsChain graph.Links) : graph.IsCycle (closeAt path node) := by
  have hdrop : (path ++ [node]).drop (path.idxOf node) = closeAt path node :=
    List.drop_append_of_le_length (List.idxOf_lt_length_iff.2 hnode).le
  refine ⟨⟨?_, ?_, ?_⟩, ?_⟩
  · rw [← hdrop]
    exact hwalk.drop _
  · rw [closeAt, drop_idxOf hnode]
    simp
  · rw [closeAt, drop_idxOf hnode, List.getLast?_concat]
    rfl
  · rw [closeAt, List.dropLast_concat]
    exact (List.drop_sublist _ _).nodup hnodup

/-! ## Nodes that are done with -/

/-- From a settled node only settled nodes can be reached. -/
theorem IsSettled.isDone_of_reach (h : graph.IsSettled path entered) {node other : Nat}
    (hnode : IsDone path entered node) (hreach : Relation.ReflTransGen graph.Links node other) :
    IsDone path entered other := by
  induction hreach with
  | refl => exact hnode
  | tail _ hlinks ih => exact (h _ ih).1 _ hlinks

/-- A node that the search has not entered is put at the end of the path. -/
theorem Searching.enter (h : graph.Searching path entered active) {node : Nat}
    (hnode : node ∉ entered) (hwalk : (path ++ [node]).IsChain graph.Links)
    (hinside : node < graph.size) :
    graph.Searching (path ++ [node]) (node :: entered) (node :: active) := by
  have hfresh : ∀ other ∈ path, other ≠ node := fun other hother heq =>
    hnode (heq ▸ h.onPath hother)
  -- The search is done with the same nodes as before, since the new one is on the path.
  have hdone : ∀ other, IsDone (path ++ [node]) (node :: entered) other ↔
      IsDone path entered other := by
    intro other
    simp only [IsDone, List.mem_cons, List.mem_append, List.not_mem_nil, or_false, not_or]
    constructor
    · rintro ⟨hentered, hpath, hne⟩
      exact ⟨hentered.resolve_left hne, hpath⟩
    · rintro ⟨hentered, hpath⟩
      exact ⟨.inr hentered, hpath, fun heq => hnode (heq ▸ hentered)⟩
  refine ⟨hwalk, ?_, ?_, ?_, ?_, ?_⟩
  · refine List.nodup_append.2 ⟨h.nodup, List.pairwise_singleton _ _, ?_⟩
    intro other hother last hlast
    rw [List.mem_singleton.1 hlast]
    exact hfresh other hother
  · intro other hother
    rcases List.mem_append.1 hother with hother | hother
    · exact h.inside other hother
    · rwa [List.mem_singleton.1 hother]
  · intro other hother
    rcases List.mem_append.1 hother with hother | hother
    · exact List.mem_cons_of_mem _ (h.onPath hother)
    · exact List.mem_cons.2 (.inl (List.mem_singleton.1 hother))
  · intro other
    rw [List.mem_cons, h.active, List.mem_append, List.mem_singleton, or_comm]
  · intro other hother
    obtain ⟨hnext, hacyclic⟩ := h.settled other ((hdone other).1 hother)
    exact ⟨fun next hmem => (hdone next).2 (hnext next hmem), hacyclic⟩

/-- When all successors of the last node of a path were tried, the search is done with the node and
leaves it. -/
theorem Tried.leave {node : Nat} {result : Search} (hnode : node ∉ path)
    (h : graph.Tried (path ++ [node]) (node :: entered) (node :: active) (graph.next node)
      result) :
    graph.Tried path entered active [node] (result.leave node) := by
  cases h with
  | found hcycle => exact .found hcycle
  | @done after hsubset hsettled hnext =>
      have hleave : Search.leave ⟨after, node :: active, none⟩ node = ⟨after, active, none⟩ := by
        rw [Search.leave, List.erase_cons_head]
      rw [hleave]
      rw [List.cons_subset] at hsubset
      have hleft : IsDone path after node := ⟨hsubset.1, hnode⟩
      have hweaker : ∀ other, IsDone (path ++ [node]) after other → IsDone path after other :=
        fun other hother => ⟨hother.1, fun hmem => hother.2 (List.mem_append_left _ hmem)⟩
      -- A way back to the node would begin with a successor, and these only lead to nodes that
      -- are done with while the node is still on the path.
      have hacyclic : ¬ Relation.TransGen graph.Links node node := by
        intro hback
        obtain ⟨next, hlinks, hreach⟩ := Relation.TransGen.head'_iff.1 hback
        have hdone := hsettled.isDone_of_reach (hnext next hlinks) hreach
        exact hdone.2 (List.mem_append_right _ (List.mem_singleton_self node))
      refine .done hsubset.2 ?_ ?_
      · intro other hother
        by_cases heq : other = node
        · subst heq
          exact ⟨fun next hmem => hweaker next (hnext next hmem), hacyclic⟩
        · have hstill : IsDone (path ++ [node]) after other := by
            refine ⟨hother.1, fun hmem => ?_⟩
            rcases List.mem_append.1 hmem with hmem | hmem
            · exact hother.2 hmem
            · exact heq (List.mem_singleton.1 hmem)
          obtain ⟨hlead, hother⟩ := hsettled other hstill
          exact ⟨fun next hmem => hweaker next (hlead next hmem), hother⟩
      · intro other hother
        rwa [List.mem_singleton.1 hother]

/-- One more node that the search is done with was tried first. -/
theorem Tried.cons {nodes : List Nat} {node : Nat} {result : Search}
    (hnode : IsDone path entered node) (h : graph.Tried path entered active nodes result) :
    graph.Tried path entered active (node :: nodes) result := by
  cases h with
  | found hcycle => exact .found hcycle
  | done hsubset hsettled hnodes =>
      exact .done hsubset hsettled
        (List.forall_mem_cons.2 ⟨⟨hsubset hnode.1, hnode.2⟩, hnodes⟩)

/-- Nodes may be tried with more nodes entered than at first. -/
theorem Tried.mono {nodes before : List Nat} {result : Search} (hsubset : before ⊆ entered)
    (h : graph.Tried path entered active nodes result) :
    graph.Tried path before active nodes result := by
  cases h with
  | found hcycle => exact .found hcycle
  | done hafter hsettled hnodes => exact .done (List.Subset.trans hsubset hafter) hsettled hnodes

/-! ## The search -/

/-- Trying nodes that the end of a path leads to, when entering one of them tries it. -/
theorem tried_tryEach {enter : List Nat → List Nat → Nat → Search}
    (henter : ∀ entered node, graph.Searching path entered active → node ∉ entered →
      (path ++ [node]).IsChain graph.Links → node < graph.size →
        graph.Tried path entered active [node] (enter entered active node))
    {nodes : List Nat} (h : graph.Searching path entered active)
    (hnodes : ∀ node ∈ nodes, (path ++ [node]).IsChain graph.Links ∧ node < graph.size) :
    graph.Tried path entered active nodes (tryEach enter path entered active nodes) := by
  induction nodes generalizing entered with
  | nil => exact .done (List.Subset.refl _) h.settled (by simp)
  | cons node rest ih =>
      obtain ⟨⟨hwalk, hinside⟩, hrest⟩ := List.forall_mem_cons.1 hnodes
      unfold tryEach
      split
      · next hentered =>
          rw [List.contains_iff_mem] at hentered
          split
          · next hpath =>
              rw [List.contains_iff_mem, h.active] at hpath
              exact .found (isCycle_closeAt h.nodup hpath hwalk)
          · next hpath =>
              rw [List.contains_iff_mem, h.active] at hpath
              exact (ih h hrest).cons ⟨hentered, hpath⟩
      · next hentered =>
          rw [List.contains_iff_mem] at hentered
          have htried := henter entered node h hentered hwalk hinside
          generalize enter entered active node = result at htried
          cases htried with
          | found hcycle => exact .found hcycle
          | @done after hsubset hsettled hnode =>
              have hafter : graph.Searching path after active :=
                { h with
                  onPath := List.Subset.trans h.onPath hsubset
                  settled := hsettled }
              have hdone := hnode node (List.mem_singleton_self node)
              exact ((ih hafter hrest).cons hdone).mono hsubset

/-- Entering a node tries it. The depth suffices because the path meets no node twice. -/
theorem tried_searchFrom (hgraph : graph.IsInside) {depth node : Nat}
    (h : graph.Searching path entered active) (hnode : node ∉ entered)
    (hwalk : (path ++ [node]).IsChain graph.Links) (hinside : node < graph.size)
    (hdepth : graph.size ≤ depth + path.length) :
    graph.Tried path entered active [node]
      (graph.searchFrom depth path entered active node) := by
  induction depth generalizing path entered active node with
  | zero =>
      have hentered := h.enter hnode hwalk hinside
      have hlength := length_le_of_nodup hentered.nodup hentered.inside
      rw [List.length_append, List.length_singleton] at hlength
      omega
  | succ depth ih =>
      have hentered := h.enter hnode hwalk hinside
      have hdeeper : graph.size ≤ depth + (path ++ [node]).length := by
        rw [List.length_append, List.length_singleton]
        omega
      refine Tried.leave (fun hpath => hnode (h.onPath hpath)) ?_
      refine tried_tryEach ?_ hentered ?_
      · intro later next hlater hnext hnextWalk hnextInside
        exact ih hlater hnext hnextWalk hnextInside hdeeper
      · intro next hnext
        refine ⟨hwalk.append (.singleton next) ?_, hgraph node next hnext⟩
        simpa [Links] using hnext

/-- The search from each of some nodes finds a cycle, or settles all of them. -/
theorem cycleFrom_cases (hgraph : graph.IsInside) {nodes : List Nat}
    (h : graph.IsSettled [] entered) (hnodes : ∀ node ∈ nodes, node < graph.size) :
    (∃ cycle, graph.cycleFrom entered nodes = some cycle ∧ graph.IsCycle cycle) ∨
      (graph.cycleFrom entered nodes = none ∧
        ∃ after, entered ⊆ after ∧ nodes ⊆ after ∧ graph.IsSettled [] after) := by
  induction nodes generalizing entered with
  | nil => exact .inr ⟨rfl, entered, List.Subset.refl _, List.nil_subset _, h⟩
  | cons node rest ih =>
      obtain ⟨hinside, hrest⟩ := List.forall_mem_cons.1 hnodes
      unfold cycleFrom
      split
      · next hentered =>
          rw [List.contains_iff_mem] at hentered
          refine (ih h hrest).imp_right ?_
          rintro ⟨hnone, after, hsubset, hafter, hsettled⟩
          exact ⟨hnone, after, hsubset, List.cons_subset.2 ⟨hsubset hentered, hafter⟩, hsettled⟩
      · next hentered =>
          rw [List.contains_iff_mem] at hentered
          have hstart : graph.Searching [] entered [] :=
            ⟨.nil, List.Pairwise.nil, by simp, List.nil_subset _, fun _ => Iff.rfl, h⟩
          have hdepth : graph.size ≤ graph.size + 1 + ([] : List Nat).length := by simp
          have htried := tried_searchFrom hgraph hstart hentered (.singleton node) hinside hdepth
          generalize graph.searchFrom (graph.size + 1) [] entered [] node = result at htried
          cases htried with
          | found hcycle => exact .inl ⟨_, rfl, hcycle⟩
          | @done later hlater hsettled hnode =>
              refine (ih hsettled hrest).imp_right ?_
              rintro ⟨hnone, after, hsubset, hafter, hsettled⟩
              have hmem : node ∈ after := hsubset (hnode node (List.mem_singleton_self node)).1
              exact ⟨hnone, after, List.Subset.trans hlater hsubset,
                List.cons_subset.2 ⟨hmem, hafter⟩, hsettled⟩

/-- The search finds a cycle, or no node of the graph can be reached from itself. -/
theorem cycle?_cases (hgraph : graph.IsInside)
    (hsources : ∀ node ∈ graph.sources, node < graph.size) :
    (∃ cycle, graph.cycle? = some cycle ∧ graph.IsCycle cycle) ∨
      (graph.cycle? = none ∧ ∀ node, ¬ Relation.TransGen graph.Links node node) := by
  have hnone : graph.IsSettled [] [] := fun _ hnode => absurd hnode.1 List.not_mem_nil
  refine (cycleFrom_cases hgraph hnone hsources).imp_right ?_
  rintro ⟨hfound, after, _, hafter, hsettled⟩
  refine ⟨hfound, fun node hback => ?_⟩
  -- A node with a way back has a successor, so it is one of those that the search began from.
  obtain ⟨next, hlinks, _⟩ := Relation.TransGen.head'_iff.1 hback
  have hnode : node ∈ after := hafter (mem_sources hlinks)
  exact (hsettled node ⟨hnode, List.not_mem_nil⟩).2 hback

end PageGraph

/-- The search finds a cycle in the graph of a form, or no page can be reached from itself. -/
theorem Form.cycle_cases (form : Form) :
    (∃ cycle, form.graph.cycle? = some cycle ∧ form.graph.IsCycle cycle) ∨
      (form.graph.cycle? = none ∧ ∀ index, ¬ Relation.TransGen form.Leads index index) := by
  rw [← form.links_graph]
  exact PageGraph.cycle?_cases form.isInside_graph form.lt_of_mem_sources

end PagedForm
