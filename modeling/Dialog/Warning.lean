import Dialog.Graph.Search
import Dialog.Script.Reader

namespace Dialog

/-!
# Warnings

A script may be played although some of its nodes cannot be come to, or cannot
be left for the end. Each such node is warned of once: first all nodes that are
unreachable from node 0, then those that are reachable but trapped, both in
increasing order of ids.
-/

/-- What is odd about a node of a script. -/
inductive Warning where
  | unreachable (id : Nat) (node : Node)
  | trapped (id : Nat) (node : Node)
  deriving Repr, DecidableEq

/-- The wording of a warning, if the line of its node can be told. -/
def Warning.message : Warning → Except Numeral.Fault String
  | .unreachable id node =>
      node.place.map fun place => s!"node {id}{place} is unreachable from node 0"
  | .trapped id node =>
      node.place.map fun place => s!"node {id}{place} has no path to a terminating node"

namespace Script

/-- A warning about each of some nodes. -/
def warn (script : Script) (warning : Nat → Node → Warning) (ids : List Nat) : List Warning :=
  ids.filterMap fun id => (script.nodes[id]?).map (warning id)

/-- The warnings about a script. -/
def warnings (script : Script) : List Warning :=
  let graph := script.graph
  let reached := spread graph.successors 0
  script.warn .unreachable (graph.unreachable 0) ++
    script.warn .trapped (graph.trapped.filter reached.has)

/--
The wordings of the warnings about a script that can be played. A warning that cannot be
worded ends the analysis.
-/
def analyze (script : Script) : Except LoadFault (List String) :=
  script.playable.bind fun playable =>
    (playable.warnings.mapM Warning.message).mapError .numeral

end Script

end Dialog
