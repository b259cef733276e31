import Mathlib.Data.List.Chain
import Mathlib.Data.List.Perm.Subperm

/-!
# Walks

A walk is a list of nodes in which each leads to the one after it, and all of them can be reached
from the first. Where no node can be reached from itself a walk meets no node twice;
`length_le_of_nodup` bounds the length of such a walk.
-/

namespace PagedForm

/-- A walk that ends where it began, after at least one move. -/
structure IsClosedWalk (leads : Nat → Nat → Prop) (walk : List Nat) : Prop where
  chain : walk.IsChain leads
  moves : 1 < walk.length
  closed : walk.head? = walk.getLast?

variable {leads : Nat → Nat → Prop}

/-- The first node of a closed walk can be reached from itself. -/
theorem IsClosedWalk.exists_transGen {walk : List Nat} (h : IsClosedWalk leads walk) :
    ∃ node, Relation.TransGen leads node node := by
  obtain ⟨hchain, hmoves, hclosed⟩ := h
  cases walk with
  | nil => cases hmoves
  | cons first rest =>
      cases rest with
      | nil => exact absurd hmoves (Nat.lt_irrefl 1)
      | cons second rest =>
          obtain ⟨hfirst, hrest⟩ := List.isChain_cons_cons.1 hchain
          have hlast : (second :: rest).getLast (List.cons_ne_nil second rest) = first := by
            rw [List.getLast?_cons_cons, List.getLast?_eq_some_getLast (List.cons_ne_nil _ _),
              List.head?_cons, Option.some.injEq] at hclosed
            exact hclosed.symm
          have hback := List.relationReflTransGen_of_exists_isChain_cons rest hrest hlast
          exact ⟨first, Relation.TransGen.head' hfirst hback⟩

/-- Where no node can be reached from itself, a walk meets no node twice. -/
theorem nodup_of_isChain (hacyclic : ∀ node, ¬ Relation.TransGen leads node node)
    {walk : List Nat} (hchain : walk.IsChain leads) : walk.Nodup := by
  have hreach : walk.IsChain (Relation.TransGen leads) := hchain.imp fun _ _ h => .single h
  have hpairs := List.isChain_iff_pairwise.1 hreach
  refine hpairs.imp ?_
  rintro node _ hback rfl
  exact hacyclic node hback

/-- The nodes of a walk can be reached from the first. -/
theorem reflTransGen_of_mem_walk {first node : Nat} {rest : List Nat}
    (hwalk : (first :: rest).IsChain leads) (hnode : node ∈ first :: rest) :
    Relation.ReflTransGen leads first node := by
  induction rest generalizing first with
  | nil => rw [List.mem_singleton.1 hnode]
  | cons second rest ih =>
      obtain ⟨hleads, hrest⟩ := List.isChain_cons_cons.1 hwalk
      rcases List.mem_cons.1 hnode with rfl | hnode
      · exact .refl
      · exact .head hleads (ih hrest hnode)

/-- A walk that begins below a bound stays below it when every move leads below it. -/
theorem lt_of_mem_walk {bound first : Nat} {rest : List Nat}
    (hbound : ∀ source node, leads source node → node < bound) (hfirst : first < bound)
    (hwalk : (first :: rest).IsChain leads) : ∀ node ∈ first :: rest, node < bound := by
  intro node hnode
  rcases (reflTransGen_of_mem_walk hwalk hnode).cases_tail with rfl | ⟨_, _, hleads⟩
  · exact hfirst
  · exact hbound _ node hleads

/-- There are at most as many different numbers below a bound as the bound says. -/
theorem length_le_of_nodup {nodes : List Nat} {bound : Nat} (hnodup : nodes.Nodup)
    (hlt : ∀ node ∈ nodes, node < bound) : nodes.length ≤ bound := by
  have hsubset : nodes ⊆ List.range bound := fun node h => List.mem_range.2 (hlt node h)
  have hle := (List.subperm_of_subset hnodup hsubset).length_le
  rwa [List.length_range] at hle

end PagedForm
