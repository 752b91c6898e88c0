import Dialog.Session.Event

namespace Dialog

/-!
# The log of a session

Some events leave a message in the log. A message has a level; a reader of the
log asks for a least level and sees the messages at it and above.
-/

namespace Log

/-- How much a message matters, least first. -/
inductive Level where
  | trace
  | debug
  | info
  | success
  | warning
  | error
  | critical
  deriving Repr, DecidableEq

namespace Level

/-- The place of a level among all levels. -/
def rank : Level → Nat
  | .trace => 0
  | .debug => 1
  | .info => 2
  | .success => 3
  | .warning => 4
  | .error => 5
  | .critical => 6

/-- The name of a level. -/
def name : Level → String
  | .trace => "TRACE"
  | .debug => "DEBUG"
  | .info => "INFO"
  | .success => "SUCCESS"
  | .warning => "WARNING"
  | .error => "ERROR"
  | .critical => "CRITICAL"

/-- All levels, least first. -/
def all : List Level :=
  [.trace, .debug, .info, .success, .warning, .error, .critical]

/-- The level with a given name. -/
def named? (name : String) : Option Level :=
  all.find? fun level => level.name = name

end Level

/-- A message and how much it matters. -/
structure Message where
  level : Level
  text : String
  deriving Repr, DecidableEq

end Log

/-- The message that an event leaves in the log. -/
def Event.message? : Event → Option Log.Message
  | .warned warning => warning.message.toOption.map fun text => ⟨.warning, text⟩
  | .loaded nodes => some ⟨.debug, s!"Parsed script with {nodes} node(s)"⟩
  | .bound name value => some ⟨.debug, s!"Set {name} = {quoted value}"⟩
  | .moved source target => some ⟨.debug, s!"Transition {source} -> {target}"⟩
  | .rejected node answer reason =>
      some ⟨.debug, s!"Rejected choice {quoted answer} at node {node}: {reason.message answer}"⟩
  | .runEnded steps none => some ⟨.debug, s!"Session finished after {steps} step(s)"⟩
  | _ => none

/-- The messages that events leave in the log, in order. -/
def messages (events : List Event) : List Log.Message :=
  events.filterMap Event.message?

end Dialog
