import Dialog.Session.Run

namespace Dialog.Session

/-!
# Operations on a session

All that may be done to a session from outside, as one type, so that a history
is a list of operations. An operation that fails leaves a session behind too:
`perform` gives it together with the events and the outcome.
-/

/-- Something that may be done to a session. -/
inductive Operation where
  | load (text : String)
  | take (script : Script)
  | start
  | step
  | run
  | feed (lines : List String)
  | goTo (id : Int)
  | bind (name value : String)
  deriving DecidableEq

/-- What came of an operation. -/
inductive Outcome where
  | done
  | loadFailed (fault : LoadFault)
  | failed (fault : SessionFault)
  | endless
  deriving Repr, DecidableEq

/-- What an operation leaves behind: the session after it, its events, and its outcome. -/
structure Performed where
  session : Session
  events : List Event
  outcome : Outcome
  deriving DecidableEq

/-- The outcome of something that may have failed. -/
def Outcome.ofFault? : Option SessionFault → Outcome
  | none => .done
  | some fault => .failed fault

/-- The outcome of a run. -/
def Outcome.ofEnding : Ending → Outcome
  | .halted => .done
  | .failed fault => .failed fault
  | .endless => .endless

/-- The outcome of taking up a script from a text. -/
def Outcome.ofLoad : Except LoadFault Script → Outcome
  | .ok _ => .done
  | .error fault => .loadFailed fault

/-- Performs an operation. -/
def perform (session : Session) : Operation → Performed
  | .load text =>
      let loaded := session.load text
      ⟨loaded.session, loaded.events, .ofLoad loaded.outcome⟩
  | .take script => ⟨session.begin script, [], .done⟩
  | .start => ⟨session.start, [], .done⟩
  | .step =>
      let stepped := session.step
      ⟨stepped.session, stepped.events, .ofFault? stepped.fault⟩
  | .run =>
      let ran := session.run
      ⟨ran.session, ran.events, .ofEnding ran.ending⟩
  | .feed lines => ⟨session.feed lines, [], .done⟩
  | .goTo id => ⟨session.goTo id, [], .done⟩
  | .bind name value => ⟨session.bind name value, [], .done⟩

end Dialog.Session
