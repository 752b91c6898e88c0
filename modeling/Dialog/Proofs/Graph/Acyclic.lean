import Dialog.Proofs.Graph.Failure
import Dialog.Proofs.Graph.Spread
import Mathlib.Data.List.TakeWhile

namespace Dialog

/-!
# Graphs without cycles

The test for cycles marks a vertex once everything that it leads to is marked. A
vertex that is marked is thus one from which every sequence of edges ends, and
one that is left without a mark leads to another one left without a mark. So the
test finds no cycle exactly when the edges of the script are well-founded, and
what holds of a script without cycles is proved by that induction: no trail
returns, every node leads to the terminal id, and failing goes on nowhere for
ever.
-/

variable {needs next : Nat → List Nat} {vertices : List Nat}

theorem mem_dropWhile_or
    (met : Nat → Bool)
    {list : List Nat}
    {item : Nat}
    (member : item ∈ list) :
    item ∈ list.dropWhile met ∨ met item = true := by
  rw [← List.takeWhile_append_dropWhile (p := met) (l := list)] at member
  rcases List.mem_append.mp member with taken | left
  · exact Or.inr (List.mem_takeWhile_imp taken)
  · exact Or.inl left

theorem getD_setIfInBounds
    (table : Array (List Nat))
    {index : Nat}
    (inside : index < table.size)
    (entry : List Nat)
    (other : Nat) :
    (table.setIfInBounds index entry).getD other [] =
      if other = index then entry else table.getD other [] := by
  by_cases same : other = index
  · subst same
    simp [Array.getD_eq_getD_getElem?, inside]
  · simp [Array.getD_eq_getD_getElem?, same, Ne.symm same]

/--
What holds while vertices wait for those that they need. `pending` is why nothing
is forgotten: a vertex that is neither marked nor still to be looked at has a need
that is not met, and is looked at again when it is.
-/
structure Waiting
    (needs : Nat → List Nat)
    (vertices : List Nat)
    (marks : Marks)
    (waits : Array (List Nat))
    (work : List Nat) :
    Prop where
  inside : ∀ vertex ∈ vertices, vertex < marks.size
  needed : ∀ vertex, ∀ need ∈ waits.getD vertex [], need ∈ needs vertex
  awaited :
    ∀ vertex, ∀ need ∈ needs vertex, need ∈ waits.getD vertex [] ∨ marks.has need = true
  grounded :
    ∀ vertex, marks.has vertex = true → Acc (fun need vertex => need ∈ needs vertex) vertex
  pending :
    ∀ vertex ∈ vertices,
      marks.has vertex = true ∨ vertex ∈ work ∨ ∃ need ∈ needs vertex, marks.has need = false

namespace Waiting

variable {marks : Marks} {waits : Array (List Nat)} {vertex : Nat} {rest left : List Nat}

/--
A vertex that waits for nothing unmarked is marked, and those that need it are looked at.
One that only waited for this vertex comes back to work.
-/
theorem mark
    (opposite : ∀ vertex need, need ∈ needs vertex → vertex ∈ next need)
    (waiting : Waiting needs vertices marks waits (vertex :: rest))
    (inside : vertex < marks.size)
    (ready : (waits.getD vertex []).dropWhile marks.has = []) :
    Waiting needs vertices (marks.set vertex true inside) waits (next vertex ++ rest) := by
  have met : ∀ need ∈ needs vertex, marks.has need = true := by
    intro need needed
    rcases waiting.awaited vertex need needed with awaited | marked
    · exact List.dropWhile_eq_nil_iff.mp ready need awaited
    · exact marked
  refine ⟨?_, waiting.needed, ?_, ?_, ?_⟩
  · intro other listed
    exact (waiting.inside other listed).trans_eq (Array.size_set ..).symm
  · intro other need needed
    rw [Marks.has_set]
    exact (waiting.awaited other need needed).imp_right Or.inr
  · intro other marked
    rcases (Marks.has_set marks inside other).mp marked with rfl | before
    · exact Acc.intro other fun need needed => waiting.grounded need (met need needed)
    · exact waiting.grounded other before
  · intro other listed
    rw [Marks.has_set]
    rcases waiting.pending other listed with marked | looked | ⟨need, needed, unmarked⟩
    · exact Or.inl (Or.inr marked)
    · rcases List.mem_cons.mp looked with rfl | later
      · exact Or.inl (Or.inl rfl)
      · exact Or.inr (Or.inl (List.mem_append_right _ later))
    · by_cases now : need = vertex
      · subst now
        exact Or.inr (Or.inl (List.mem_append_left rest (opposite other need needed)))
      · refine Or.inr (Or.inr ⟨need, needed, ?_⟩)
        rw [← Bool.not_eq_true, Marks.has_set, not_or]
        exact ⟨now, by simp [unmarked]⟩

/-- A vertex that waits for one that is not marked keeps waiting for what is left of its needs. -/
theorem wait
    (waiting : Waiting needs vertices marks waits (vertex :: rest))
    (drops : (waits.getD vertex []).dropWhile marks.has = left)
    (unmet : left ≠ []) :
    Waiting needs vertices marks (waits.setIfInBounds vertex left) rest := by
  have keeps : ∀ need ∈ left, need ∈ waits.getD vertex [] := by
    rw [← drops]
    exact fun need kept => (List.dropWhile_sublist marks.has).subset kept
  have dropped : ∀ need ∈ waits.getD vertex [], need ∈ left ∨ marks.has need = true := by
    rw [← drops]
    exact fun need awaited => mem_dropWhile_or marks.has awaited
  obtain ⟨first, kept, firstUnmarked⟩ : ∃ first ∈ left, marks.has first = false := by
    refine ⟨left.head unmet, List.head_mem unmet, ?_⟩
    subst drops
    exact List.head_dropWhile_not marks.has unmet
  have listed : vertex < waits.size := by
    by_contra outside
    have nothing := keeps first kept
    simp [Array.getD_eq_getD_getElem?, Array.getElem?_eq_none (Nat.le_of_not_lt outside)] at nothing
  refine ⟨waiting.inside, ?_, ?_, waiting.grounded, ?_⟩
  · intro other need
    rw [getD_setIfInBounds waits listed]
    split
    · rename_i same
      subst same
      exact fun kept => waiting.needed other need (keeps need kept)
    · exact waiting.needed other need
  · intro other need needed
    rw [getD_setIfInBounds waits listed]
    split
    · rename_i same
      subst same
      rcases waiting.awaited other need needed with awaited | marked
      · exact dropped need awaited
      · exact Or.inr marked
    · exact waiting.awaited other need needed
  · intro other member
    rcases waiting.pending other member with marked | later | unmarked
    · exact Or.inl marked
    · rcases List.mem_cons.mp later with rfl | later
      · have needed := waiting.needed other first (keeps first kept)
        exact Or.inr (Or.inr ⟨first, needed, firstUnmarked⟩)
      · exact Or.inr (Or.inl later)
    · exact Or.inr (Or.inr unmarked)

/-- A vertex that is marked, or cannot be, is passed over. -/
theorem pass_over
    (waiting : Waiting needs vertices marks waits (vertex :: rest))
    (done : ¬marks.Pending vertex) :
    Waiting needs vertices marks waits rest := by
  refine ⟨waiting.inside, waiting.needed, waiting.awaited, waiting.grounded, ?_⟩
  intro other listed
  rcases waiting.pending other listed with marked | later | unmet
  · exact Or.inl marked
  · rcases List.mem_cons.mp later with rfl | later
    · refine Or.inl ?_
      simpa [Marks.pending_iff, waiting.inside other listed] using done
    · exact Or.inr (Or.inl later)
  · exact Or.inr (Or.inr unmet)

end Waiting

/-- Marking ends with nothing left to look at. -/
theorem waiting_saturate
    (opposite : ∀ vertex need, need ∈ needs vertex → vertex ∈ next need)
    {marks : Marks}
    {waits : Array (List Nat)}
    {work : List Nat}
    (waiting : Waiting needs vertices marks waits work) :
    ∃ left, Waiting needs vertices (saturate next marks waits work) left [] := by
  induction marks, waits, work using saturate.induct next with
  | case1 marks waits =>
      rw [saturate]
      exact ⟨waits, waiting⟩
  | case2 marks waits vertex rest pending ready inductionHypothesis =>
      rw [saturate, dif_pos pending]
      simp only [ready]
      exact inductionHypothesis (waiting.mark opposite pending.1 ready)
  | case3 marks waits vertex rest pending unmet inductionHypothesis =>
      rw [saturate, dif_pos pending]
      split
      · rename_i ready
        exact absurd ready unmet
      · exact inductionHypothesis (waiting.wait rfl unmet)
  | case4 marks waits vertex rest done inductionHypothesis =>
      rw [saturate, dif_neg done]
      exact inductionHypothesis (waiting.pass_over done)

/-- Marking from all vertices marks those from which every sequence of needs ends. -/
theorem has_saturate_iff
    (opposite : ∀ vertex need, need ∈ needs vertex → vertex ∈ next need)
    (inside : ∀ vertex ∈ vertices, vertex < Marks.clear.size)
    (closed : ∀ vertex ∈ vertices, ∀ need ∈ needs vertex, need ∈ vertices)
    {waits : Array (List Nat)}
    (table : ∀ vertex, waits.getD vertex [] = needs vertex)
    {vertex : Nat}
    (listed : vertex ∈ vertices) :
    (saturate next Marks.clear waits vertices).has vertex = true ↔
      Acc (fun need vertex => need ∈ needs vertex) vertex := by
  have begun : Waiting needs vertices Marks.clear waits vertices := by
    refine ⟨inside, ?_, ?_, ?_, fun other member => Or.inr (Or.inl member)⟩
    · intro other need waited
      rwa [← table]
    · intro other need needed
      rw [table]
      exact Or.inl needed
    · intro other marked
      simp [Marks.has_clear] at marked
  obtain ⟨left, ended⟩ := waiting_saturate opposite begun
  constructor
  · exact ended.grounded vertex
  · intro grounded
    induction grounded with
    | intro vertex _ inductionHypothesis =>
        rcases ended.pending vertex listed with marked | looked | ⟨need, needed, unmarked⟩
        · exact marked
        · exact absurd looked List.not_mem_nil
        · have marked := inductionHypothesis need needed (closed vertex listed need needed)
          simp [unmarked] at marked

namespace Script

variable {script : Script} {id : Nat}

/-- Every sequence of edges ends. -/
def Acyclic (script : Script) : Prop :=
  WellFounded fun target source => script.Edge source target

theorem has_settled_iff
    (listed : id ∈ terminal :: script.graph.nodes) :
    script.graph.settled.has id = true ↔
      Acc (fun target source => target ∈ script.graph.successors source) id := by
  have member : ∀ vertex, vertex ∈ terminal :: script.graph.nodes ↔
      vertex = terminal ∨ vertex < script.size := by
    intro vertex
    rw [List.mem_cons, Graph.nodes, List.mem_range]
    rfl
  refine has_saturate_iff ?_ ?_ ?_ ?_ listed
  · intro source target leads
    rwa [mem_graph_predecessors_iff, ← mem_graph_successors_iff]
  · intro vertex vertexListed
    have size : Marks.clear.size = terminal + 1 := Array.size_replicate ..
    have few := script.size_le
    have within := (member vertex).mp vertexListed
    have counted : script.nodes.size = script.size := rfl
    omega
  · intro source _ target leads
    rw [member]
    exact ((script.mem_graph_successors_iff source target).mp leads).target_cases
  · intro source
    rw [Array.getD_eq_getD_getElem?, Array.getElem?_map, Array.getElem?_range]
    by_cases node : source < script.graph.size
    · simp [node]
    · have childless : script.graph.successors source = [] := by
        refine List.eq_nil_iff_forall_not_mem.mpr fun target leads => node ?_
        exact ((script.mem_graph_successors_iff source target).mp leads).source_lt
      simp [node, childless]

/-- The test for cycles finds none exactly when there is none. -/
theorem hasCycle_eq_false_iff : script.graph.hasCycle = false ↔ script.Acyclic := by
  have same :
      (fun target source => target ∈ script.graph.successors source) =
        fun target source => script.Edge source target := by
    funext target source
    exact propext (script.mem_graph_successors_iff source target)
  have settled : script.graph.hasCycle = false ↔
      ∀ id < script.size, Acc (fun target source => script.Edge source target) id := by
    simp only [Graph.hasCycle, List.any_eq_false, Graph.nodes, List.mem_range, Bool.not_eq_true',
      Bool.not_eq_false]
    refine forall₂_congr fun id inside => ?_
    rw [← same, has_settled_iff]
    exact List.mem_cons_of_mem terminal (List.mem_range.mpr inside)
  rw [settled]
  constructor
  · intro ends
    refine ⟨fun id => ?_⟩
    by_cases node : id < script.size
    · exact ends id node
    · exact Acc.intro id fun target edge => absurd edge.source_lt node
  · exact fun acyclic id _ => acyclic.apply id

/-- A script whose nodes lead only to later ones has no cycle. -/
theorem acyclic_of_forward
    (forward :
      ∀ entry ∈ script.nodes.toList.zipIdx, ∀ destination ∈ entry.1.destinations,
        entry.2 < destination) :
    script.Acyclic := by
  refine Subrelation.wf ?_ (measure fun id => terminal - id).wf
  intro target source edge
  have inside := Nat.lt_of_lt_of_le edge.source_lt script.size_le
  obtain ⟨node, present, leads⟩ := edge
  have entry : (node, source) ∈ script.nodes.toList.zipIdx := by
    rwa [List.mem_zipIdx_iff_getElem?, Array.getElem?_toList]
  have later : source < target := forward _ entry target leads
  have bound : terminal - target < terminal - source := by omega
  exact bound

/-- Failing goes along an edge. -/
theorem edge_failure
    (promptless : script.isPromptless id = true) :
    script.Edge id (script.failure id) := by
  obtain ⟨⟨body, line⟩, present, empty⟩ := isPromptless_iff.mp promptless
  cases body with
  | question success fail name prompts =>
      have fails : script.failure id = fail := by simp [failure, present]
      rw [fails]
      exact ⟨_, present, List.mem_cons_of_mem success List.mem_cons_self⟩
  | branching | terminating => cases empty

namespace Acyclic

/-- No trail returns to where it began. -/
theorem not_returns
    (acyclic : script.Acyclic)
    (id length : Nat) :
    ¬Trail script.graph.successors id (length + 1) id := by
  induction id using acyclic.induction generalizing length with
  | _ id inductionHypothesis =>
      intro returns
      rw [Nat.add_comm] at returns
      obtain ⟨middle, first, rest⟩ := returns.split
      cases first with
      | onward begun leads =>
          cases begun
          have edge := (script.mem_graph_successors_iff id middle).mp leads
          exact inductionHypothesis middle edge length (rest.onward leads)

/-- From every node a trail leads to the terminal id. -/
theorem exists_trail_to_terminal
    (acyclic : script.Acyclic)
    (inside : id < script.size) :
    ∃ length, Trail script.graph.successors id length terminal := by
  induction id using acyclic.induction with
  | _ id inductionHypothesis =>
      obtain ⟨target, leads⟩ :=
        List.exists_mem_of_ne_nil _ script.nodes[id].body.destinations_ne_nil
      have edge : script.Edge id target := ⟨_, Array.getElem?_eq_getElem inside, leads⟩
      have first : Trail script.graph.successors id 1 target :=
        Trail.here.onward ((script.mem_graph_successors_iff id target).mpr edge)
      rcases edge.target_cases with rfl | node
      · exact ⟨1, first⟩
      · obtain ⟨length, rest⟩ := inductionHypothesis target edge node
        exact ⟨1 + length, first.append rest⟩

theorem trapped_eq_nil
    (acyclic : script.Acyclic) :
    script.graph.trapped = [] := by
  refine List.eq_nil_iff_forall_not_mem.mpr fun id trapped => ?_
  obtain ⟨inside, closed⟩ := (script.mem_trapped_iff id).mp trapped
  exact closed (acyclic.exists_trail_to_terminal inside)

theorem not_failsForever
    (acyclic : script.Acyclic)
    (id : Nat) :
    ¬script.FailsForever id := by
  induction id using acyclic.induction with
  | _ id inductionHypothesis =>
      intro forever
      have edge : script.Edge id (script.failure id) := edge_failure (forever 0)
      exact inductionHypothesis (script.failure id) edge fun count => forever (count + 1)

end Acyclic

end Script

end Dialog
