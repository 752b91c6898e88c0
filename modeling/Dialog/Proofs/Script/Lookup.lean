import Dialog.Script

namespace Dialog.Script

/-!
# Nodes by their ids

An id that is not negative names the node at its place, if there is one. No such id
is the terminal id, so what is asked of a node by its id is answered by the node.
-/

variable {script : Script} {id : Nat} {node : Node}

/-- An id that is not negative names the node at its place. -/
theorem node?_ofNat
    (script : Script)
    (id : Nat) :
    script.node? id = script.nodes[id]? := by
  unfold node?
  by_cases inside : id < script.size
  · have position : position? script.size (id : Int) = some id := if_pos inside
    rw [position, Option.bind_some]
  · have position : position? script.size (id : Int) = none := if_neg inside
    rw [position, Option.bind_none, Array.getElem?_eq_none_iff.mpr (Nat.le_of_not_lt inside)]

/-- Only ids below the number of nodes name a node. -/
theorem lt_size_of_present
    (present : script.nodes[id]? = some node) :
    id < script.size := by
  obtain ⟨inside, _⟩ := Array.getElem?_eq_some_iff.mp present
  exact inside

/-- The terminal id names no node. -/
theorem ne_terminal_of_present
    (present : script.nodes[id]? = some node) :
    id ≠ terminal :=
  Nat.ne_of_lt (Nat.lt_of_lt_of_le (lt_size_of_present present) script.size_le)

/-- The destinations of an id are those of the node that it names. -/
theorem destinations_of_present
    (present : script.nodes[id]? = some node) :
    script.destinations id = .ok node.destinations := by
  have named : script.node? id = some node := by
    rw [node?_ofNat, present]
  have differs : (id : Int) ≠ terminal := fun same =>
    ne_terminal_of_present present (Int.ofNat_inj.mp same)
  simp [destinations, lookup, differs, named, Except.map]

end Dialog.Script
