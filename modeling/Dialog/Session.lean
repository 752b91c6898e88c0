import Dialog.Session.Response

namespace Dialog

/-!
# Sessions

A session stands at a node of its script, at one of its attempts, with the
answers bound so far. It stands at the terminal id once it has ended. It keeps
the prompt last shown, counts what it does, and holds the answers that are still
to be read.

An id may also be set by hand, so it is any whole number; a negative one counts
from the last node.
-/

/-- How often each node was entered, by increasing id. -/
abbrev Visits : Type :=
  List (Nat × Nat)

/-- Counts one more visit to a node. -/
def Visits.enter (id : Nat) : Visits → Visits
  | [] => [(id, 1)]
  | (first, count) :: rest =>
      if id < first then (id, 1) :: (first, count) :: rest
      else if id = first then (first, count + 1) :: rest
      else (first, count) :: enter id rest

/-- How often a node was entered. -/
def Visits.count (visits : Visits) (id : Nat) : Nat :=
  (visits.lookup id).getD 0

/-- What a session has counted since it was started. -/
structure Metrics where
  steps : Nat
  transitions : Nat
  invalidInputs : Nat
  visits : Visits
  deriving Repr, DecidableEq

/-- Nothing has been counted. -/
def Metrics.zero : Metrics :=
  { steps := 0, transitions := 0, invalidInputs := 0, visits := [] }

/-- A session with its script, its place, its bindings and its answers. -/
structure Session where
  script : Option Script
  current : Int
  attempt : Nat
  bindings : Bindings
  lastPrompt : Option Prompt
  metrics : Metrics
  answers : Answers
  deriving DecidableEq

namespace Session

/-- A session without a script. -/
def fresh (answers : Answers) : Session :=
  { script := none
    current := 0
    attempt := 0
    bindings := .empty
    lastPrompt := none
    metrics := .zero
    answers }

/-- Begins anew at node 0, with nothing bound and nothing counted but the first visit. -/
def start (session : Session) : Session :=
  { session with
    current := 0
    attempt := 0
    bindings := .empty
    lastPrompt := none
    metrics := { Metrics.zero with visits := [(0, 1)] } }

/-- Takes up a script and begins at its node 0. -/
def begin (session : Session) (script : Script) : Session :=
  { session with script := some script }.start

/-- Whether the session has ended. -/
def halted (session : Session) : Bool :=
  session.current = terminal

/-- The node that the session stands at; `none` once it has ended. -/
def currentNode (session : Session) : Except SessionFault (Option Node) :=
  match session.script with
  | none => .error .noScript
  | some script =>
      if session.halted then .ok none
      else
        match script.node? session.current with
        | some node => .ok (some node)
        | none => .error (.absent session.current)

/-- Goes to an id at its first attempt, counting nothing. -/
def goTo (session : Session) (id : Int) : Session :=
  { session with current := id, attempt := 0 }

/-- Binds a value to a name. -/
def bind (session : Session) (name value : String) : Session :=
  { session with bindings := session.bindings.bind name value }

/-- Appends answers to those that are still to be read. -/
def feed (session : Session) (lines : List String) : Session :=
  { session with answers := session.answers.feed lines }

/-- Counts one step. -/
def countStep (session : Session) : Session :=
  { session with metrics := { session.metrics with steps := session.metrics.steps + 1 } }

/-- Counts one rejected answer. -/
def countRejection (session : Session) : Session :=
  { session with
    metrics := { session.metrics with invalidInputs := session.metrics.invalidInputs + 1 } }

/-- Goes to a destination, counting the transition and the visit. -/
def move (session : Session) (destination : Nat) : Session :=
  let visits := session.metrics.visits
  let metrics :=
    { session.metrics with
      transitions := session.metrics.transitions + 1
      visits := if destination = terminal then visits else visits.enter destination }
  { session with metrics }.goTo destination

end Session

end Dialog
