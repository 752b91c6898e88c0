import Dialog.Session.Event

namespace Dialog

/-!
# Spans

A span says that a piece of work ended: taking up a script, a step, or a run.
It carries figures about the work and the fault that ended it, if one did. The
steps of a run lie within the span of the run.
-/

/-- A figure that a span carries. -/
inductive Attribute where
  | integer (value : Int)
  | text (value : String)
  deriving Repr, DecidableEq

/-- A piece of work that ended. -/
structure Span where
  name : String
  parent : Option String
  attributes : List (String × Attribute)
  failure : Option String
  deriving Repr, DecidableEq

namespace Span

/-- The name of the span of a run. -/
def runName : String :=
  "winnow.session"

/-- How a span words the fault that ended its work. -/
def failureOf (className message : String) : String :=
  s!"{className}: {message}"

end Span

/-- How a span words the fault of a session. -/
def SessionFault.failure (fault : SessionFault) : String :=
  Span.failureOf fault.className fault.message

/-- How a span words the fault of taking up a script. -/
def LoadFault.failure (fault : LoadFault) : String :=
  Span.failureOf fault.className fault.message

/-- The span that an event ends, within the span of the run that `run` names, if any. -/
def Event.span? (run : Option String) : Event → Option Span
  | .loaded nodes => some ⟨"winnow.parse", none, [("winnow.nodes", .integer nodes)], none⟩
  | .loadFailed fault => some ⟨"winnow.parse", none, [], some fault.failure⟩
  | .stepEnded node kind attempt fault =>
      some
        { name := "winnow.step"
          parent := run
          attributes :=
            [("winnow.node.id", .integer node), ("winnow.node.kind", .text kind.name),
              ("winnow.attempt", .integer attempt)]
          failure := fault.map SessionFault.failure }
  | .runEnded steps fault =>
      let figures : List (String × Attribute) :=
        match fault with
        | none => [("winnow.steps", .integer steps)]
        | some _ => []
      some ⟨Span.runName, none, figures, fault.map SessionFault.failure⟩
  | _ => none

/-- Whether an event ends a run. -/
def Event.endsRun : Event → Bool
  | .runEnded .. => true
  | _ => false

/-- The spans that events end, in order; steps lie within a run that ends among the same events. -/
def spans (events : List Event) : List Span :=
  let run := if events.any Event.endsRun then some Span.runName else none
  events.filterMap (Event.span? run)

end Dialog
