import Dialog.Node

namespace Dialog

/-!
# Marking by closure

Vertices are marked one after the other until no more can be. Each waits for some
vertices to be marked before it. A work list holds the vertices to look at; one
that is not marked yet and waits for nothing more is marked, and the vertices
that may have waited for it join the list. What a vertex need not wait for any
longer is dropped when the vertex is looked at, so that no look is repeated.
Every mark is set once, which bounds the work without a count of steps.
-/

/-- A mark for every vertex up to the terminal id. -/
abbrev Marks : Type :=
  Array Bool

namespace Marks

/-- No vertex is marked. -/
def clear : Marks :=
  Array.replicate (terminal + 1) false

/-- Whether a vertex is marked. -/
def has (marks : Marks) (vertex : Nat) : Bool :=
  marks.getD vertex false

/-- A vertex that may be marked now, but is not. -/
def Pending (marks : Marks) (vertex : Nat) : Prop :=
  ∃ bound : vertex < marks.size, marks[vertex] = false

instance (marks : Marks) (vertex : Nat) : Decidable (marks.Pending vertex) :=
  if bound : vertex < marks.size then
    if unmarked : marks[vertex] = false then .isTrue ⟨bound, unmarked⟩
    else .isFalse fun ⟨_, marked⟩ => unmarked marked
  else .isFalse fun ⟨inside, _⟩ => bound inside

/-- Marking a pending vertex leaves fewer vertices without a mark. -/
theorem count_set_lt
    (marks : Marks)
    (vertex : Nat)
    (bound : vertex < marks.size)
    (unmarked : marks[vertex] = false) :
    (marks.set vertex true bound).count false < marks.count false := by
  have present : 0 < marks.count false :=
    Array.count_pos_iff.2 (unmarked ▸ Array.getElem_mem bound)
  have wasUnmarked : (marks[vertex] == false) = true := by rw [unmarked]; rfl
  have isMarked : ¬(true == false) = true := by decide
  rw [Array.count_set bound, if_pos wasUnmarked, if_neg isMarked]
  omega

end Marks

/-- Marks vertices of a work list, and those that waited for them, until no more can be marked. -/
def saturate
    (next : Nat → List Nat)
    (marks : Marks)
    (waits : Array (List Nat))
    (work : List Nat) :
    Marks :=
  match work with
  | [] => marks
  | vertex :: rest =>
      if pending : marks.Pending vertex then
        match (waits.getD vertex []).dropWhile marks.has with
        | [] => saturate next (marks.set vertex true pending.1) waits (next vertex ++ rest)
        | left => saturate next marks (waits.setIfInBounds vertex left) rest
      else saturate next marks waits rest
  termination_by (marks.count false, work.length)
  decreasing_by
    · exact Prod.Lex.left _ _ (Marks.count_set_lt marks vertex pending.1 pending.2)
    · exact Prod.Lex.right _ (by simp)
    · exact Prod.Lex.right _ (by simp)

/-- The vertices that a relation leads to from a vertex, that vertex included. -/
def spread (next : Nat → List Nat) (start : Nat) : Marks :=
  saturate next Marks.clear #[] [start]

end Dialog
