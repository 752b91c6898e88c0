import Dialog.Session.Step

namespace Dialog

/-!
# Runs and scripts of a session

A run makes steps until the session has ended or a step fails. Only questions
without prompts are left without a read, so a run that makes more steps than
`stepBound` has come back to one of them with no answer read in between, and
goes round for ever.

Taking up a script begins the session anew; a text that makes no script changes
nothing.
-/

/-- How a run ends, if it does. -/
inductive Ending where
  | halted
  | failed (fault : SessionFault)
  | endless
  deriving Repr, DecidableEq

namespace Session

/-- What a run leaves behind: the session after it, its events, and how it ended. -/
structure Ran where
  session : Session
  events : List Event
  ending : Ending
  deriving DecidableEq

/-- Makes steps until the session has ended or a step fails, within a number of steps. -/
def runWithin : Nat → Session → Ran
  | bound, session =>
      if session.halted then ⟨session, [], .halted⟩
      else
        match bound with
        | 0 => ⟨session, [], .endless⟩
        | bound + 1 =>
            let stepped := session.step
            match stepped.fault with
            | some fault => ⟨stepped.session, stepped.events, .failed fault⟩
            | none =>
                let rest := runWithin bound stepped.session
                ⟨rest.session, stepped.events ++ rest.events, rest.ending⟩

/-- The event that tells how a run ended. -/
def closing (session : Session) : Ending → List Event
  | .halted => [.runEnded session.metrics.steps none]
  | .failed fault => [.runEnded session.metrics.steps (some fault)]
  | .endless => []

/-- The most steps that a run makes unless it is endless. -/
def stepBound (session : Session) (script : Script) : Nat :=
  (session.answers.unread.length + 1) * (script.promptless + 1)

/-- Runs a session until it has ended or a step fails. -/
def run (session : Session) : Ran :=
  match session.script with
  | none => ⟨session, [], .failed .noScript⟩
  | some script =>
      let ran := session.runWithin (session.stepBound script)
      { ran with events := ran.events ++ ran.session.closing ran.ending }

/-- What taking up a script leaves behind: the session, its events, and the script or the fault. -/
structure Loaded where
  session : Session
  events : List Event
  outcome : Except LoadFault Script

/-- Takes up the script that a text describes. -/
def load (session : Session) (text : String) : Loaded :=
  match Script.load text with
  | .error fault => ⟨session, [.loadFailed fault], .error fault⟩
  | .ok script =>
      ⟨session.begin script, script.warnings.map .warned ++ [.loaded script.size], .ok script⟩

end Session

end Dialog
