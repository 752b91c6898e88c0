import Dialog.Node
import Dialog.Position

namespace Dialog

/-!
# Scripts

A script is a sequence of nodes whose positions are their ids. It has at most
`terminal` nodes, so the terminal id names none of them, and every destination
in it is a node of the script or the terminal id: both are part of the type.
`Script.ofNodes` builds a script from any nodes that satisfy this, and names the
first destination that does not.
-/

/-- A closed sequence of nodes. -/
structure Script where
  nodes : Array Node
  size_le : nodes.size ≤ terminal
  closed :
    ∀ node ∈ nodes, ∀ destination ∈ node.destinations,
      destination = terminal ∨ destination < nodes.size
  deriving DecidableEq

namespace Script

/-- Why nodes make no script. -/
inductive Fault where
  | tooMany (count : Nat)
  | missing (id : Nat) (node : Node) (destination count : Nat)
  deriving Repr, DecidableEq

/-- What is to be told of a fault, if the numbers in it can be written. -/
def Fault.wording : Fault → Except Numeral.Fault String
  | .tooMany count => .ok s!"script defines {count} nodes; at most {terminal} are allowed"
  | .missing id node destination count =>
      node.place.bind fun place =>
        (Numeral.spell destination).map fun written =>
          s!"node {id}{place} refers to missing node {written}; script defines {count} node(s)"

/-- The wording of a fault; it tells of a number that cannot be written instead, if there is one. -/
def Fault.message (fault : Fault) : String :=
  match fault.wording with
  | .ok text => text
  | .error unwritten => unwritten.message

/-- Whether a destination is the terminal id or one of `count` ids. -/
def isPresent (count destination : Nat) : Bool :=
  destination = terminal || destination < count

/-- The first destination of a node that is not present among `count` nodes. -/
def missingDestination (count : Nat) (node : Node) : Option Nat :=
  node.destinations.find? fun destination => !isPresent count destination

/-- The first of some nodes, by id, with a destination not present among `count` nodes. -/
def firstMissing (count : Nat) (nodes : List Node) : Option Fault :=
  nodes.zipIdx.findSome? fun (node, id) =>
    (missingDestination count node).map fun destination =>
      .missing id node destination count

/-- Nodes without a missing destination are closed. -/
theorem closed_of_firstMissing
    (count : Nat)
    (nodes : List Node)
    (nothingMissing : firstMissing count nodes = none) :
    ∀ node ∈ nodes, ∀ destination ∈ node.destinations,
      destination = terminal ∨ destination < count := by
  intro node nodeMember destination destinationMember
  obtain ⟨id, bound, rfl⟩ := List.getElem_of_mem nodeMember
  have member : (nodes[id], id) ∈ nodes.zipIdx := by
    simp [List.mem_zipIdx_iff_getElem?, bound]
  have nothingAt := List.findSome?_eq_none_iff.1 nothingMissing _ member
  rw [Option.map_eq_none_iff] at nothingAt
  have present := List.find?_eq_none.1 nothingAt destination destinationMember
  by_cases ends : destination = terminal
  · exact Or.inl ends
  · exact Or.inr (by simpa [isPresent, ends] using present)

/-- The script with the given nodes, or the first reason why there is none. -/
def ofNodes (nodes : List Node) : Except Fault Script :=
  if few : nodes.length ≤ terminal then
    match nothingMissing : firstMissing nodes.length nodes with
    | some fault => .error fault
    | none =>
        .ok
          { nodes := nodes.toArray
            size_le := by simpa using few
            closed := by simpa using closed_of_firstMissing nodes.length nodes nothingMissing }
  else
    .error (.tooMany nodes.length)

/-- The number of nodes. -/
def size (script : Script) : Nat :=
  script.nodes.size

/-- The number of questions that have nothing to show. -/
def promptless (script : Script) : Nat :=
  script.nodes.countP fun node => node.body.isPromptless

/-- Why an id names no node. -/
inductive LookupFault where
  | terminal
  | outOfRange
  | notAnIndex
  deriving Repr, DecidableEq

/-- The wording of a failed lookup. -/
def LookupFault.message : LookupFault → String
  | .terminal => "the terminating id does not name a node"
  | .outOfRange => "tuple index out of range"
  | .notAnIndex => "cannot fit 'int' into an index-sized integer"

/-- The node that an id names, a negative id counting from the end. -/
def node? (script : Script) (id : Int) : Option Node :=
  (position? script.size id).bind fun position => script.nodes[position]?

/-- The node that an id names, or why it names none. -/
def lookup (script : Script) (id : Int) : Except LookupFault Node :=
  if id = terminal then .error .terminal
  else
    match script.node? id with
    | some node => .ok node
    | none => .error (if isIndex id then .outOfRange else .notAnIndex)

/-- The destinations of the node that an id names. -/
def destinations (script : Script) (id : Int) : Except LookupFault (List Nat) :=
  (script.lookup id).map Node.destinations

end Script

end Dialog
