import Dialog.Graph
import Dialog.Graph.Closure

namespace Dialog.Graph

/-!
# Searching the graph of a script

Which nodes a session can come to, which it can never leave, and whether it can
go round in circles. A node is reachable when edges lead to it, trapped when
none lead from it to the terminal id, and the graph has a cycle when marking
every vertex whose successors are all marked leaves a node without a mark.
-/

/--
The nodes that edges lead to from a start, in increasing order; none when the start is no
vertex.
-/
def reachable (graph : Graph) (start : Int) : List Nat :=
  if graph.contains start then
    let marks := spread graph.successors start.toNat
    graph.nodes.filter marks.has
  else []

/-- The nodes that no edges lead to from a start, in increasing order. -/
def unreachable (graph : Graph) (start : Int) : List Nat :=
  if graph.contains start then
    let marks := spread graph.successors start.toNat
    graph.nodes.filter fun node => !marks.has node
  else graph.nodes

/-- The nodes from which no edges lead to the terminal id, in increasing order. -/
def trapped (graph : Graph) : List Nat :=
  let exits := spread graph.predecessors terminal
  graph.nodes.filter fun node => !exits.has node

/-- The vertices from which every sequence of edges ends: each waits for all its successors. -/
def settled (graph : Graph) : Marks :=
  saturate graph.predecessors Marks.clear ((Array.range graph.size).map graph.successors)
    (terminal :: graph.nodes)

/-- Whether some node has edges that lead back to it. -/
def hasCycle (graph : Graph) : Bool :=
  let marks := graph.settled
  graph.nodes.any fun node => !marks.has node

/-- The size of a graph in figures. -/
structure Summary where
  nodes : Nat
  edges : Nat
  reachable : Nat
  hasCycle : Bool
  deriving Repr, DecidableEq

/-- The number of distinct edges. -/
def edgeCount (graph : Graph) : Nat :=
  (graph.nodes.flatMap graph.successors).length

/-- The figures of a graph, reachability being counted from node 0. -/
def summary (graph : Graph) : Summary :=
  { nodes := graph.size
    edges := graph.edgeCount
    reachable := (graph.reachable 0).length
    hasCycle := graph.hasCycle }

end Dialog.Graph
