import Dialog.Proofs.Graph.Spread
import Dialog.Warning
import Mathlib.Data.Set.Card

namespace Dialog.Script

/-!
# Counting the nodes of a script

The figures that are told about a script are lengths of lists that searches of its
graph give. They count what walks along its edges reach: no list names a node
twice, and a node is warned of either because no walk leads to it, or because a
walk leads to it and none from it to the end.
-/

variable {script : Script} {source target : Nat}

/-- A walk is a trail of some length. -/
theorem Walk.exists_trail
    (walk : script.Walk source target) :
    ∃ length, Trail script.graph.successors source length target := by
  induction walk with
  | here vertex => exact ⟨0, .here⟩
  | @step source middle target edge _ inductionHypothesis =>
      obtain ⟨length, trail⟩ := inductionHypothesis
      have first : Trail script.graph.successors source 1 middle :=
        Trail.here.onward ((script.mem_graph_successors_iff source middle).mpr edge)
      exact ⟨1 + length, first.append trail⟩

theorem Walk.onward
    {last : Nat}
    (walk : script.Walk source target)
    (edge : script.Edge target last) :
    script.Walk source last := by
  induction walk with
  | here vertex => exact .step edge (.here last)
  | step first _ inductionHypothesis => exact .step first (inductionHypothesis edge)

/-- A walk is a trail of some length. -/
theorem walk_iff_exists_trail :
    script.Walk source target ↔
      ∃ length, Trail script.graph.successors source length target := by
  constructor
  · exact Walk.exists_trail
  · intro trails
    obtain ⟨length, trail⟩ := trails
    induction trail with
    | here => exact .here source
    | onward _ leads inductionHypothesis =>
        exact inductionHypothesis.onward ((script.mem_graph_successors_iff _ _).mp leads)

/-- The nodes that a walk from node 0 leads to. -/
def reached (script : Script) : Set Nat :=
  {id | id < script.size ∧ script.Walk 0 id}

/-- The nodes that a walk from node 0 leads to, and no walk from there to the end. -/
def caught (script : Script) : Set Nat :=
  {id | id ∈ script.reached ∧ ¬script.Walk id terminal}

/-- A set has as many members as a list that names each of them once. -/
theorem ncard_eq_length
    {ids : List Nat}
    {members : Set Nat}
    (once : ids.Nodup)
    (same : ∀ id, id ∈ ids ↔ id ∈ members) :
    members.ncard = ids.length := by
  have listed : members = ids.toFinset := by
    ext id
    rw [Finset.mem_coe, List.mem_toFinset, same]
  rw [listed, Set.ncard_coe_finset, List.toFinset_card_of_nodup once]

section Figures

variable (playable : 0 < script.size)
include playable

/-- The search from node 0 lists the nodes that a walk from there leads to. -/
theorem mem_reachable_iff_reached
    (id : Nat) :
    id ∈ script.graph.reachable 0 ↔ id ∈ script.reached := by
  have listed := mem_reachable_iff playable id
  rw [← walk_iff_exists_trail] at listed
  exact listed

/-- The nodes listed as reachable are as many as those that walks lead to. -/
theorem length_reachable :
    (script.graph.reachable 0).length = script.reached.ncard := by
  refine (ncard_eq_length ?_ (mem_reachable_iff_reached playable)).symm
  have inside : script.graph.contains 0 = true := graph_contains playable
  rw [Graph.reachable, if_pos inside]
  exact List.nodup_range.filter _

/-- Every node is either reachable or not. -/
theorem length_reachable_add_unreachable :
    (script.graph.reachable 0).length + (script.graph.unreachable 0).length = script.size := by
  have inside : script.graph.contains 0 = true := graph_contains playable
  rw [Graph.reachable, Graph.unreachable, if_pos inside, if_pos inside]
  exact (List.length_eq_length_filter_add _).symm.trans List.length_range

/-- Node 0 is reached, and only nodes are. -/
theorem reached_ncard_bounds :
    1 ≤ script.reached.ncard ∧ script.reached.ncard ≤ script.size := by
  have start : 0 ∈ script.reached := ⟨playable, .here 0⟩
  have split := length_reachable_add_unreachable playable
  rw [← length_reachable playable]
  refine ⟨?_, by omega⟩
  exact List.length_pos_of_mem ((mem_reachable_iff_reached playable 0).mpr start)

end Figures

/-- Of the trapped nodes, those that a search from node 0 marks are caught. -/
theorem mem_caught_iff
    (id : Nat) :
    id ∈ script.graph.trapped.filter (spread script.graph.successors 0).has ↔
      id ∈ script.caught := by
  have marked := has_spread_iff script.successors_bounded (Nat.zero_le terminal) id
  rw [List.mem_filter, mem_trapped_iff, marked, ← walk_iff_exists_trail, ← walk_iff_exists_trail]
  constructor
  · intro listed
    obtain ⟨⟨inside, apart⟩, walk⟩ := listed
    exact ⟨⟨inside, walk⟩, apart⟩
  · intro member
    obtain ⟨⟨inside, walk⟩, apart⟩ := member
    exact ⟨⟨inside, apart⟩, walk⟩

/-- The trapped nodes that are warned of are as many as those that walks lead to and none out of. -/
theorem length_caught :
    (script.graph.trapped.filter (spread script.graph.successors 0).has).length =
      script.caught.ncard := by
  have once : script.graph.trapped.Nodup := List.nodup_range.filter _
  exact (ncard_eq_length (once.filter _) mem_caught_iff).symm

/-- There is a warning about each of some nodes. -/
theorem length_warn
    {ids : List Nat}
    (warning : Nat → Node → Warning)
    (nodes : ∀ id ∈ ids, id < script.size) :
    (script.warn warning ids).length = ids.length := by
  rw [warn, List.length_filterMap_eq_countP, List.countP_eq_length]
  intro id member
  rw [Option.isSome_map, Array.getElem?_eq_getElem (nodes id member)]
  rfl

/-- There are as many warnings as nodes that are not reached, and nodes that are and are caught. -/
theorem length_warnings
    (playable : 0 < script.size) :
    script.warnings.length = (script.size - script.reached.ncard) + script.caught.ncard := by
  have split := length_reachable_add_unreachable playable
  have unreached : ∀ id ∈ script.graph.unreachable 0, id < script.size := fun id member =>
    ((mem_unreachable_iff playable id).mp member).1
  have caught :
      ∀ id ∈ script.graph.trapped.filter (spread script.graph.successors 0).has,
        id < script.size := fun id member =>
    ((mem_trapped_iff id).mp (List.mem_of_mem_filter member)).1
  rw [warnings, List.length_append, length_warn _ unreached, length_warn _ caught,
    length_caught, ← length_reachable playable, ← split, Nat.add_sub_cancel_left]

end Dialog.Script
