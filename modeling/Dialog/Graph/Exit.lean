import Dialog.Graph

namespace Dialog

/-!
# Shortest exits

A shortest way from a node to the terminal id is found from both ends at once.
Each end has a ball of vertices found so far with the route by which each was
found. The ball with the smaller fringe, or the first when they are equal, grows
by one level, following the edges at its fringe in order, until an edge ends in
the other ball. The two routes of that vertex, joined, are the exit. The same
search tells whether there is a way at all.
-/

/--
The vertices found around a center, each with its route to the center, and the last level
found.
-/
structure Ball where
  routes : Array (Option (List Nat))
  fringe : List Nat
  deriving Repr, DecidableEq

namespace Ball

/-- A ball that has found only its center. -/
def around (center : Nat) : Ball :=
  { routes := (Array.replicate (terminal + 1) none).setIfInBounds center (some [center])
    fringe := [center] }

/-- The route from a vertex found to the center, both ends included. -/
def route? (ball : Ball) (vertex : Nat) : Option (List Nat) :=
  (ball.routes[vertex]?).join

/-- Whether a vertex has been found. -/
def holds (ball : Ball) (vertex : Nat) : Bool :=
  (ball.route? vertex).isSome

/-- Follows one edge out of the ball; the last level is kept last found first. -/
def extend (ball : Ball) (source target : Nat) : Ball :=
  match ball.route? target, ball.route? source with
  | none, some route =>
      { routes := ball.routes.setIfInBounds target (some (target :: route))
        fringe := target :: ball.fringe }
  | _, _ => ball

/-- Follows edges in order, up to the first that ends in the other ball. -/
def follow (ball other : Ball) : List (Nat × Nat) → Ball × Option Nat
  | [] => (ball, none)
  | (source, target) :: rest =>
      let grown := ball.extend source target
      if other.holds target then (grown, some target) else grown.follow other rest

/-- The edges at the last level, in the order in which its vertices were found. -/
def fringeEdges (ball : Ball) (next : Nat → List Nat) : List (Nat × Nat) :=
  ball.fringe.reverse.flatMap fun source => (next source).map fun target => (source, target)

/-- Grows a ball by one level, or up to a vertex of the other ball. -/
def grow (ball : Ball) (next : Nat → List Nat) (other : Ball) : Ball × Option Nat :=
  let edges := ball.fringeEdges next
  { ball with fringe := [] }.follow other edges

/-- The way from the first center to the second through a vertex that both balls hold. -/
def join (forward backward : Ball) (meeting : Nat) : List Nat :=
  ((forward.route? meeting).getD []).reverse ++ ((backward.route? meeting).getD []).drop 1

end Ball

/-- Whether a list is no longer than another; only the shorter one is walked to its end. -/
def isNoLonger : List Nat → List Nat → Bool
  | [], _ => true
  | _ :: _, [] => false
  | _ :: first, _ :: second => isNoLonger first second

/-- No longer means of no greater length. -/
theorem isNoLonger_iff
    (first second : List Nat) :
    isNoLonger first second = true ↔ first.length ≤ second.length := by
  induction first generalizing second with
  | nil => simp [isNoLonger]
  | cons _ first inductionHypothesis =>
      cases second with
      | nil => simp [isNoLonger]
      | cons _ second => simp [isNoLonger, inductionHypothesis]

namespace Graph

/-- Grows two balls in turn until they meet or one can grow no more, within a number of rounds. -/
def meet (graph : Graph) : Nat → Ball → Ball → Option (List Nat)
  | 0, _, _ => none
  | rounds + 1, forward, backward =>
      if forward.fringe.isEmpty || backward.fringe.isEmpty then none
      else if isNoLonger forward.fringe backward.fringe then
        match forward.grow graph.successors backward with
        | (grown, some meeting) => some (grown.join backward meeting)
        | (grown, none) => graph.meet rounds grown backward
      else
        match backward.grow graph.predecessors forward with
        | (grown, some meeting) => some (forward.join grown meeting)
        | (grown, none) => graph.meet rounds forward grown

/--
A shortest way from a vertex to the terminal id, both ends included; empty when
there is none. Every round but the last adds a vertex to a ball, so there are
rounds enough.
-/
def shortestExit (graph : Graph) (start : Int) : List Nat :=
  if start = terminal then [terminal]
  else if graph.contains start then
    (graph.meet (2 * (graph.size + 2)) (.around start.toNat) (.around terminal)).getD []
  else []

/-- Why a question about a vertex has no answer. -/
inductive Fault where
  | notAVertex (id : Int)
  | numeral (fault : Numeral.Fault)
  deriving Repr, DecidableEq

namespace Fault

/-- The fault of an id that is no vertex; an id with too many digits cannot be told. -/
def absent (id : Int) : Fault :=
  if Numeral.isWritable id then .notAVertex id else .numeral .unwritable

/-- The class of a fault, as reports name it. -/
def className : Fault → String
  | .notAVertex _ => "NodeNotFound"
  | .numeral _ => "ValueError"

/-- The wording of a fault. -/
def message : Fault → String
  | .notAVertex id => s!"Source {id} is not in G"
  | .numeral fault => fault.message

end Fault

/-- Whether a way leads from a vertex to the terminal id. -/
def canTerminate (graph : Graph) (id : Int) : Except Fault Bool :=
  if graph.contains id then .ok (!(graph.shortestExit id).isEmpty) else .error (.absent id)

/--
The shortest exit from an id. There is none from an id that is no vertex, if that can be
told.
-/
def exitFrom (graph : Graph) (id : Int) : Except Fault (List Nat) :=
  if graph.contains id then .ok (graph.shortestExit id)
  else
    match Fault.absent id with
    | .notAVertex _ => .ok []
    | fault => .error fault

end Graph

end Dialog
