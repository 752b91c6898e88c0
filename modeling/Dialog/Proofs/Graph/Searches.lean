import Dialog.Proofs.Graph.Acyclic
import Dialog.Proofs.Graph.Warnings
import Mathlib.Order.WellFoundedSet

namespace Dialog.Script

/-!
# Searches and walks

A search may be started anywhere, also where there is no node. What it finds from a
start are the nodes that a walk leads to from there, so it finds none from the end,
which no edge leaves, and none from where there is no vertex. The test for cycles
marks what waits for nothing unmarked; since a script has finitely many vertices,
what it leaves without a mark is there just when some walk leads round.
-/

variable {script : Script} {source target id : Nat} {start : Int}

/-- A walk that goes anywhere begins at a node. -/
theorem Walk.eq_or_source_lt
    (walk : script.Walk source target) :
    source = target ∨ source < script.size := by
  cases walk with
  | here => exact Or.inl rfl
  | step edge _ => exact Or.inr edge.source_lt

/-! ## Reachability from any start -/

/-- Whether a walk leads to a vertex from where a search starts. -/
def Leads (script : Script) (start : Int) (target : Nat) : Prop :=
  ∃ source : Nat, start = source ∧ script.Walk source target

/-- From a number that is no less than zero, what leads on is a walk. -/
theorem leads_ofNat_iff : script.Leads source target ↔ script.Walk source target := by
  constructor
  · rintro ⟨other, same, walk⟩
    obtain rfl : source = other := Int.ofNat_inj.mp same
    exact walk
  · exact fun walk => ⟨source, rfl, walk⟩

/-- Only from a node does a walk lead to a node. -/
theorem Leads.start_of_lt
    (leads : script.Leads start target)
    (inside : target < script.size) :
    0 ≤ start ∧ start < script.size := by
  obtain ⟨source, rfl, walk⟩ := leads
  refine ⟨Int.natCast_nonneg source, Int.ofNat_lt.mpr ?_⟩
  rcases walk.eq_or_source_lt with rfl | node
  · exact inside
  · exact node

/-- A search may start at the end or at a node. -/
theorem graph_contains_iff :
    script.graph.contains start = true ↔
      ∃ vertex : Nat, start = vertex ∧ (vertex = terminal ∨ vertex < script.size) := by
  have sized : script.graph.size = script.size := rfl
  simp only [Graph.contains, sized, Bool.or_eq_true, Bool.and_eq_true, decide_eq_true_eq]
  constructor
  · rintro (ends | ⟨least, most⟩)
    · exact ⟨terminal, ends, Or.inl rfl⟩
    · obtain ⟨vertex, rfl⟩ := Int.eq_ofNat_of_zero_le least
      exact ⟨vertex, rfl, Or.inr (Int.ofNat_lt.mp most)⟩
  · rintro ⟨vertex, rfl, rfl | node⟩
    · exact Or.inl rfl
    · exact Or.inr ⟨Int.natCast_nonneg vertex, Int.ofNat_lt.mpr node⟩

/-- What is marked from a vertex is what a walk leads to. -/
theorem has_spread_iff_leads
    (vertex : source = terminal ∨ source < script.size) :
    (spread script.graph.successors source).has target = true ↔ script.Leads source target := by
  have few := script.size_le
  have inside : source ≤ terminal := by
    rcases vertex with ends | node
    · exact Nat.le_of_eq ends
    · exact Nat.le_trans (Nat.le_of_lt node) few
  rw [has_spread_iff script.successors_bounded inside, ← walk_iff_exists_trail, leads_ofNat_iff]

/-- A search lists the nodes that a walk from its start leads to. -/
theorem mem_reachable_iff_leads :
    id ∈ script.graph.reachable start ↔ id < script.size ∧ script.Leads start id := by
  by_cases vertex : script.graph.contains start = true
  · obtain ⟨source, rfl, within⟩ := graph_contains_iff.mp vertex
    rw [Graph.reachable, if_pos vertex, List.mem_filter, Int.toNat_natCast,
      has_spread_iff_leads within]
    exact and_congr_left fun _ => List.mem_range
  · rw [Graph.reachable, if_neg vertex]
    constructor
    · exact fun listed => absurd listed List.not_mem_nil
    · rintro ⟨inside, leads⟩
      obtain ⟨least, most⟩ := leads.start_of_lt inside
      obtain ⟨source, rfl⟩ := Int.eq_ofNat_of_zero_le least
      exact absurd (graph_contains_iff.mpr ⟨source, rfl, Or.inr (Int.ofNat_lt.mp most)⟩) vertex

/-- A node is listed as unreachable when it is not listed as reachable. -/
theorem mem_unreachable_iff_not_reachable :
    id ∈ script.graph.unreachable start ↔
      id < script.size ∧ id ∉ script.graph.reachable start := by
  have sized : script.graph.size = script.size := rfl
  by_cases vertex : script.graph.contains start = true
  · rw [Graph.unreachable, Graph.reachable, if_pos vertex, if_pos vertex, List.mem_filter,
      List.mem_filter, Graph.nodes, List.mem_range, sized]
    refine and_congr_right fun inside => ?_
    rw [and_iff_right inside, Bool.not_eq_true', Bool.not_eq_true]
  · rw [Graph.unreachable, Graph.reachable, if_neg vertex, if_neg vertex, Graph.nodes,
      List.mem_range, sized]
    exact (and_iff_left List.not_mem_nil).symm

/-- The nodes are listed in order, whichever of them are left out. -/
theorem pairwise_reachable : (script.graph.reachable start).Pairwise (· < ·) := by
  unfold Graph.reachable
  split
  · exact List.pairwise_lt_range.filter _
  · exact .nil

/-- The unreachable nodes are listed in order. -/
theorem pairwise_unreachable : (script.graph.unreachable start).Pairwise (· < ·) := by
  unfold Graph.unreachable
  split
  · exact List.pairwise_lt_range.filter _
  · exact List.pairwise_lt_range

/-! ## Walks that return -/

/-- Whether a walk of one edge or more leads to a vertex from another one. -/
def Beyond (script : Script) (target source : Nat) : Prop :=
  ∃ next, script.Edge source next ∧ script.Walk next target

/-- Walks follow on each other. -/
theorem Walk.trans
    {middle : Nat}
    (begun : script.Walk source middle)
    (continued : script.Walk middle target) :
    script.Walk source target := by
  induction begun with
  | here => exact continued
  | step edge _ inductionHypothesis => exact .step edge (inductionHypothesis continued)

theorem Beyond.trans
    {middle : Nat}
    (further : script.Beyond target middle)
    (first : script.Beyond middle source) :
    script.Beyond target source := by
  obtain ⟨next, edge, walk⟩ := first
  obtain ⟨after, onward, rest⟩ := further
  exact ⟨next, edge, walk.trans (.step onward rest)⟩

/--
Where no walk returns, every sequence of edges ends, because the vertices are finitely many:
`Beyond` is a strict order on all numbers, and all edges lie among those up to the terminal
id.
-/
theorem acyclic_of_not_beyond
    (straight : ∀ vertex, ¬script.Beyond vertex vertex) :
    script.Acyclic := by
  have order : IsStrictOrder Nat script.Beyond :=
    { irrefl := straight
      trans := fun _ _ _ further first => further.trans first }
  have founded : (Set.Iic terminal).WellFoundedOn script.Beyond :=
    (Set.finite_Iic terminal).wellFoundedOn
  refine Subrelation.wf ?_ (Set.wellFoundedOn_iff.mp founded)
  intro target source edge
  have node : source ≤ terminal := Nat.le_trans (Nat.le_of_lt edge.source_lt) script.size_le
  exact ⟨⟨target, edge, .here target⟩, edge.target_le, node⟩

/-- Without a cycle, nothing lies beyond itself. -/
theorem Acyclic.not_beyond
    (acyclic : script.Acyclic)
    (vertex : Nat) :
    ¬script.Beyond vertex vertex := by
  rintro ⟨next, edge, walk⟩
  obtain ⟨length, trail⟩ := walk.exists_trail
  have first : Trail script.graph.successors vertex 1 next :=
    Trail.here.onward ((script.mem_graph_successors_iff vertex next).mpr edge)
  have round := first.append trail
  rw [Nat.add_comm] at round
  exact acyclic.not_returns vertex length round

/-- A cycle is found just when a walk of one edge or more leads from a node back to it. -/
theorem hasCycle_iff_beyond :
    script.graph.hasCycle = true ↔ ∃ id < script.size, script.Beyond id id := by
  rw [← Bool.not_eq_false, hasCycle_eq_false_iff]
  constructor
  · intro cyclic
    by_contra straight
    apply cyclic
    apply acyclic_of_not_beyond
    rintro vertex ⟨next, edge, walk⟩
    exact straight ⟨vertex, edge.source_lt, next, edge, walk⟩
  · rintro ⟨id, _, round⟩ acyclic
    exact acyclic.not_beyond id round

/-! ## What the searches tell -/

/--
What the searches of a script's graph tell, from a start that may be any number: the
nodes that a walk leads to, all the other nodes, each list in order and without
repetition, and whether a walk leads round.
-/
structure SearchesExactly (script : Script) (start : Int) : Prop where
  reachable :
    Enumerates (script.graph.reachable start)
      {id | id < script.size ∧ ∃ source : Nat, start = source ∧ script.Walk source id}
  nowhere : ¬(0 ≤ start ∧ start < script.size) → script.graph.reachable start = []
  unreachable :
    Enumerates (script.graph.unreachable start)
      {id | id < script.size ∧ id ∉ script.graph.reachable start}
  hasCycle :
    script.graph.summary.hasCycle = true ↔
      ∃ id < script.size, ∃ next, script.Edge id next ∧ script.Walk next id

/-- Searches find exactly what walks along the destinations of the nodes lead to. -/
theorem searches_exactly
    (script : Script)
    (start : Int) :
    script.SearchesExactly start := by
  refine ⟨⟨pairwise_reachable, ?_⟩, ?_, ⟨pairwise_unreachable, ?_⟩, hasCycle_iff_beyond⟩
  · exact fun id => mem_reachable_iff_leads
  · intro apart
    refine List.eq_nil_iff_forall_not_mem.mpr fun id listed => apart ?_
    obtain ⟨inside, leads⟩ := mem_reachable_iff_leads.mp listed
    exact leads.start_of_lt inside
  · exact fun id => mem_unreachable_iff_not_reachable

end Dialog.Script
