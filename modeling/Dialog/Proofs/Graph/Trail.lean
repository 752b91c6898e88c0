import Dialog.Graph

namespace Dialog

/-!
# Trails

A trail is a way along the edges of a graph, with the number of edges on it.
Trails are stated of any list of next vertices, so the same facts serve the edges
of a script and the edges taken backwards, which are the two sides of the tables
that a graph keeps.
-/

/-- So many edges lead from a source to a target. -/
inductive Trail (next : Nat → List Nat) (source : Nat) : Nat → Nat → Prop where
  | here : Trail next source 0 source
  | onward {length middle target : Nat} :
      Trail next source length middle →
      target ∈ next middle →
      Trail next source (length + 1) target

namespace Trail

variable {next back : Nat → List Nat} {source middle target : Nat} {first second : Nat}

/-- A trail goes on with a trail that begins where it ends, and their edges add up. -/
theorem append
    (begun : Trail next source first middle)
    (continued : Trail next middle second target) :
    Trail next source (first + second) target := by
  induction continued with
  | here => exact begun
  | onward _ leads inductionHypothesis => exact inductionHypothesis.onward leads

/-- A trail that is long enough passes a vertex after any number of edges. -/
theorem split
    (trail : Trail next source (first + second) target) :
    ∃ middle, Trail next source first middle ∧ Trail next middle second target := by
  induction second generalizing target with
  | zero => exact ⟨target, trail, .here⟩
  | succ second inductionHypothesis =>
      cases trail with
      | onward shorter leads =>
          obtain ⟨middle, begun, continued⟩ := inductionHypothesis shorter
          exact ⟨middle, begun, continued.onward leads⟩

/-- A trail along some edges is a trail along more of them. -/
theorem mono
    {other : Nat → List Nat}
    (more : ∀ source target, target ∈ next source → target ∈ other source)
    (trail : Trail next source first target) :
    Trail other source first target := by
  induction trail with
  | here => exact .here
  | onward _ leads inductionHypothesis => exact inductionHypothesis.onward (more _ _ leads)

/-- A trail taken backwards has as many edges. -/
theorem reverse
    (opposite : ∀ source target, target ∈ next source → source ∈ back target)
    (trail : Trail next source first target) :
    Trail back target first source := by
  induction trail with
  | here => exact .here
  | @onward length middle target _ leads inductionHypothesis =>
      have firstBack : Trail back target 1 middle :=
        Trail.here.onward (opposite middle target leads)
      rw [Nat.add_comm]
      exact firstBack.append inductionHypothesis

end Trail

namespace Script

variable {script : Script} {source target : Nat}

/-- An edge begins at a node. -/
theorem Edge.source_lt (edge : script.Edge source target) : source < script.size := by
  obtain ⟨node, present, _⟩ := edge
  obtain ⟨inside, _⟩ := Array.getElem?_eq_some_iff.mp present
  exact inside

/-- An edge ends at a node or at the terminal id. -/
theorem Edge.target_cases
    (edge : script.Edge source target) :
    target = terminal ∨ target < script.size := by
  obtain ⟨node, present, leads⟩ := edge
  exact script.closed node (Array.mem_of_getElem? present) target leads

/-- Edges end within the range that a search marks. -/
theorem Edge.target_le (edge : script.Edge source target) : target ≤ terminal := by
  rcases edge.target_cases with ends | inside
  · exact Nat.le_of_eq ends
  · exact Nat.le_trans (Nat.le_of_lt inside) script.size_le

/-- The edges that are listed are the edges there are. -/
theorem mem_edges_iff : (source, target) ∈ script.edges ↔ script.Edge source target := by
  rw [← mem_successors_iff]
  simp only [edges, List.mem_flatMap, List.mem_range, List.mem_map, Prod.mk.injEq]
  constructor
  · rintro ⟨_, _, _, leads, rfl, rfl⟩
    exact leads
  · intro leads
    have inside := (script.mem_successors_iff source target |>.mp leads).source_lt
    exact ⟨source, inside, target, leads, rfl, rfl⟩

end Script

/-- A table filled edge by edge holds at every target the sources of the edges to it. -/
theorem getElem?_foldr_modify
    (edges : List (Nat × Nat))
    {size target : Nat}
    (inside : target < size) :
    (edges.foldr
        (fun edge table => table.modify edge.2 (edge.1 :: ·))
        (Array.replicate size []))[target]? =
      some ((edges.filter fun edge => edge.2 = target).map Prod.fst) := by
  induction edges with
  | nil => simp [inside]
  | cons edge rest inductionHypothesis =>
      rw [List.foldr_cons, Array.getElem?_modify, inductionHypothesis]
      by_cases here : edge.2 = target <;> simp [here]

namespace Script

/-- The successors of a node are the targets of its edges. -/
theorem mem_graph_successors_iff
    (script : Script)
    (source target : Nat) :
    target ∈ script.graph.successors source ↔ script.Edge source target := by
  have looked : script.graph.successors source = script.successors source :=
    script.successorTable_getD source
  rw [looked, mem_successors_iff]

/-- The predecessors of a vertex are the sources of the edges into it. -/
theorem mem_graph_predecessors_iff
    (script : Script)
    (source target : Nat) :
    source ∈ script.graph.predecessors target ↔ script.Edge source target := by
  have looked :
      script.graph.predecessors target = script.predecessorTable.getD target [] := rfl
  rw [looked, Array.getD_eq_getD_getElem?]
  by_cases inside : target < terminal + 1
  · rw [predecessorTable, getElem?_foldr_modify script.edges inside, Option.getD_some]
    simp only [List.mem_map, List.mem_filter, decide_eq_true_eq, ← mem_edges_iff]
    constructor
    · rintro ⟨⟨_, _⟩, ⟨listed, rfl⟩, rfl⟩
      exact listed
    · intro listed
      exact ⟨(source, target), ⟨listed, rfl⟩, rfl⟩
  · have outside : script.predecessorTable[target]? = none := by
      have size : script.predecessorTable.size = terminal + 1 := by
        unfold predecessorTable
        induction script.edges with
        | nil => simp
        | cons edge rest inductionHypothesis => simpa using inductionHypothesis
      exact Array.getElem?_eq_none_iff.mpr (size ▸ Nat.le_of_not_lt inside)
    rw [outside, Option.getD_none]
    constructor
    · exact fun listed => absurd listed List.not_mem_nil
    · exact fun edge => absurd (Nat.lt_succ_of_le edge.target_le) inside

end Script

end Dialog
