import Dialog.Session
import Dialog.Warning

namespace Dialog

/-!
# Events

All that a session does for others to see is an event: prompts shown, values
bound, moves, rejections, steps and runs that end, and scripts taken up or
refused. What is written, reported, logged and traced is read off the events, so
these never disagree.
-/

/-- Something that a session did. -/
inductive Event where
  | warned (warning : Warning)
  | loaded (nodes : Nat)
  | loadFailed (fault : LoadFault)
  | shown (prompt : Prompt)
  | bound (name value : String)
  | moved (source : Int) (target : Nat)
  | rejected (node : Int) (answer : String) (reason : Rejection)
  | stepEnded (node : Int) (kind : Node.Kind) (attempt : Nat) (fault : Option SessionFault)
  | padded
  | runEnded (steps : Nat) (fault : Option SessionFault)
  deriving Repr, DecidableEq

namespace Event

/-- What an event writes. -/
def written? : Event → Option String
  | .shown prompt => some prompt.render
  | .padded => some "\n"
  | _ => none

/-- What an event reports to the player. -/
def report? : Event → Option String
  | .rejected _ answer reason => some (reason.message answer)
  | _ => none

end Event

/-- The chunks that events write, in order. -/
def chunks (events : List Event) : List String :=
  events.filterMap Event.written?

/-- What events report, in order. -/
def reports (events : List Event) : List String :=
  events.filterMap Event.report?

end Dialog
