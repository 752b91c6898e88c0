import Dialog.Prompt
import Dialog.Session.Answers
import Dialog.Text.Line
import Dialog.Text.Numeral

namespace Dialog

/-!
# Responses to answers

What a node makes of what was read at it: this decides where a session goes and
what it binds. An answer is the line read without its line end. At a question
any answer that is not blank is accepted. At a branching node the number of a
choice is. At a terminating node everything is, a closed queue included.
-/

/-- Why a step of a session fails. -/
inductive SessionFault where
  | noScript
  | finished
  | missingNode (id : Int)
  | inputClosed (id : Int)
  | numeral (fault : Numeral.Fault)
  | interrupted
  deriving Repr, DecidableEq

namespace SessionFault

/-- The fault of an id that names no node; an id with too many digits cannot be told. -/
def absent (id : Int) : SessionFault :=
  if Numeral.isWritable id then .missingNode id else .numeral .unwritable

/-- The class of a fault, as reports name it. -/
def className : SessionFault → String
  | .noScript => "RuntimeFlowError"
  | .finished => "RuntimeFlowError"
  | .missingNode _ => "RuntimeFlowError"
  | .inputClosed _ => "InputExhaustedError"
  | .numeral _ => "ValueError"
  | .interrupted => "Interrupted"

/-- The wording of a fault. -/
def message : SessionFault → String
  | .noScript => "No script loaded"
  | .finished => "Session already finished"
  | .missingNode id => s!"Node {id} does not exist"
  | .inputClosed id => s!"Input closed while waiting at node {id}"
  | .numeral fault => fault.message
  | .interrupted => ""

end SessionFault

/-- Why an answer makes no choice. -/
inductive Rejection where
  | blank
  | unrecognized
  | outOfRange
  deriving Repr, DecidableEq

/-- The wording of a rejection. -/
def Rejection.message (answer : String) : Rejection → String
  | .blank => "No choice entered"
  | .unrecognized => s!"Unrecognized input: {answer}"
  | .outOfRange => "Not a valid option!"

/-- What an answer selects among choices. -/
inductive Selection where
  | chosen (choice : Choice)
  | rejected (reason : Rejection)
  | unreadable (fault : Numeral.Fault)
  deriving Repr, DecidableEq

/-- The choice that a number stands for; choices are numbered from one. -/
def Choice.numbered? (options : List Choice) : Nat → Option Choice
  | 0 => none
  | number + 1 => options[number]?

/-- What an answer selects. -/
def Choice.select (options : List Choice) (answer : String) : Selection :=
  if answer.isEmpty then .rejected .blank
  else if Numeral.isNumeral answer.toList then
    match Numeral.read answer.toList with
    | .error fault => .unreadable fault
    | .ok number =>
        match numbered? options number with
        | some choice => .chosen choice
        | none => .rejected .outOfRange
  else .rejected .unrecognized

/-- What a node makes of a reading. -/
inductive Response where
  | stay
  | move (destination : Nat)
  | accept (name value : String) (destination : Nat)
  | reject (answer : String) (reason : Rejection)
  | fail (fault : SessionFault)
  deriving Repr, DecidableEq

/-- The fault of a response that is one. -/
def Response.fault? : Response → Option SessionFault
  | .fail fault => some fault
  | _ => none

namespace Node.Body

/-- What a question makes of an answer at an attempt. -/
def answerQuestion
    (success fail : Nat)
    (name : String)
    (prompts : List String)
    (attempt : Nat)
    (answer : String) :
    Response :=
  if answer.isEmpty then
    if attempt + 1 < prompts.length then .stay else .move fail
  else .accept name answer success

/-- What a branching node makes of an answer. -/
def answerBranching (name : String) (options : List Choice) (answer : String) : Response :=
  match Choice.select options answer with
  | .chosen choice => .accept name choice.text choice.destination
  | .rejected reason => .reject answer reason
  | .unreadable fault => .fail (.numeral fault)

/-- What the node with the id `id` makes of a reading at an attempt. -/
def respond (id : Int) (attempt : Nat) (body : Node.Body) : Reading → Response
  | .interrupted => .fail .interrupted
  | .closed =>
      match body with
      | .terminating _ => .move terminal
      | _ => .fail (.inputClosed id)
  | .line raw =>
      match body with
      | .question success fail name prompts =>
          answerQuestion success fail name prompts attempt (trimLineEnd raw)
      | .branching name _ options _ => answerBranching name options (trimLineEnd raw)
      | .terminating _ => .move terminal

end Node.Body

end Dialog
