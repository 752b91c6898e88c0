import Dialog.Graph.Distinct
import Dialog.Script

namespace Dialog

/-!
# The graph of a script

The vertices of a script's graph are the ids of its nodes and the terminal id.
There is an edge from a node to each of its destinations; a destination that is
listed twice gives one edge. `Edge` says this of ids, and `successors` and
`predecessors` list the other ends of a vertex's edges, in the order in which
they are met when nodes are read by id and destinations in listed order.
-/

namespace Script

/-- Some answer at the node `source` may lead to `target`. -/
def Edge (script : Script) (source target : Nat) : Prop :=
  ∃ node, script.nodes[source]? = some node ∧ target ∈ node.destinations

/-- Edges lead from one vertex to another. -/
inductive Walk (script : Script) : Nat → Nat → Prop where
  | here (vertex : Nat) : Walk script vertex vertex
  | step {source middle target : Nat} :
      script.Edge source middle → Walk script middle target → Walk script source target

/-- The distinct destinations of a node, in listed order; the terminal id has none. -/
def successors (script : Script) (source : Nat) : List Nat :=
  match script.nodes[source]? with
  | some node => distinct node.destinations
  | none => []

/-- For every node, its distinct destinations. -/
def successorTable (script : Script) : Array (List Nat) :=
  script.nodes.map fun node => distinct node.destinations

/-- All edges, by source and then in listed order. -/
def edges (script : Script) : List (Nat × Nat) :=
  (List.range script.size).flatMap fun source =>
    (script.successors source).map fun target => (source, target)

/-- For every vertex, the sources of the edges to it. -/
def predecessorTable (script : Script) : Array (List Nat) :=
  script.edges.foldr
    (fun edge table => table.modify edge.2 (edge.1 :: ·))
    (Array.replicate (terminal + 1) [])

/-- The successors of a vertex are the ends of its edges. -/
theorem mem_successors_iff
    (script : Script)
    (source target : Nat) :
    target ∈ script.successors source ↔ script.Edge source target := by
  unfold successors Edge
  cases script.nodes[source]? <;> simp [mem_distinct]

/-- The table lists the successors of every vertex. -/
theorem successorTable_getD
    (script : Script)
    (source : Nat) :
    script.successorTable.getD source [] = script.successors source := by
  rw [successorTable, successors, Array.getD_eq_getD_getElem?, Array.getElem?_map]
  cases script.nodes[source]? <;> rfl

end Script

/-- A directed graph on the ids below `size` and the terminal id. -/
structure Graph where
  size : Nat
  successors : Nat → List Nat
  predecessors : Nat → List Nat

namespace Graph

/-- Whether a number is a vertex. -/
def contains (graph : Graph) (vertex : Int) : Bool :=
  vertex = terminal || (0 ≤ vertex && vertex < graph.size)

/-- The nodes, without the terminal id. -/
def nodes (graph : Graph) : List Nat :=
  List.range graph.size

end Graph

/-- The graph of a script. -/
def Script.graph (script : Script) : Graph :=
  let successors := script.successorTable
  let predecessors := script.predecessorTable
  { size := script.size
    successors := fun source => successors.getD source []
    predecessors := fun target => predecessors.getD target [] }

end Dialog
