import Dialog.Session.Event

namespace Dialog.Session

/-!
# Steps of a session

A step is one turn of the current node. The node shows a prompt, one answer is
read, and the node's response is carried out; a question whose prompts are used
up is left without a prompt or a read. A step that goes through ends with a
blank line. A step that fails has been counted and its prompt shown, and changes
nothing else but the answers read.
-/

/-- What a step leaves behind: the session after it, its events, and its fault if it failed. -/
structure Stepped where
  session : Session
  events : List Event
  fault : Option SessionFault
  deriving DecidableEq

/-- Carries out a response at the current node. -/
def carryOut (session : Session) : Response → Session × List Event
  | .stay => ({ session with attempt := session.attempt + 1 }, [])
  | .move destination => (session.move destination, [.moved session.current destination])
  | .accept name value destination =>
      ((session.bind name value).move destination,
        [.bound name value, .moved session.current destination])
  | .reject answer reason =>
      (session.countRejection, [.rejected session.current answer reason])
  | .fail _ => (session, [])

/-- Ends the turn of a node with its response, after the events `before`. -/
def conclude
    (session : Session)
    (kind : Node.Kind)
    (before : List Event)
    (response : Response) :
    Stepped :=
  let (after, events) := session.carryOut response
  let ended : Event := .stepEnded session.current kind session.attempt response.fault?
  let padding : List Event :=
    match response.fault? with
    | none => [.padded]
    | some _ => []
  { session := after
    events := before ++ events ++ ended :: padding
    fault := response.fault? }

/-- The turn of a node. -/
def turn (session : Session) (node : Node) : Stepped :=
  match node.body.turn session.bindings session.attempt with
  | .leaves destination => session.conclude node.kind [] (.move destination)
  | .shows prompt =>
      let (reading, answers) := session.answers.read
      { session with lastPrompt := some prompt, answers }.conclude node.kind [.shown prompt]
        (node.body.respond session.current session.attempt reading)

/-- One step of a session. -/
def step (session : Session) : Stepped :=
  match session.currentNode with
  | .error fault => ⟨session, [], some fault⟩
  | .ok none => ⟨session, [], some .finished⟩
  | .ok (some node) => session.countStep.turn node

/-- The prompt that the next step will show. -/
def upcoming (session : Session) : Option Prompt :=
  match session.currentNode with
  | .ok (some node) =>
      match node.body.turn session.bindings session.attempt with
      | .shows prompt => some prompt
      | .leaves _ => none
  | _ => none

end Dialog.Session
