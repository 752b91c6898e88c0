import Dialog.Script
import Dialog.Template
import Dialog.Text.Numeral

namespace Dialog

/-!
# Prompts

A prompt is what a node shows: its text with the bindings put in, the choices it
offers, numbered from one and shown as they are, and the cue that asks for an
answer. A question shows the prompt of the current attempt, so it shows nothing
once its prompts are used up.
-/

/-- What is shown at a node. -/
structure Prompt where
  kind : Node.Kind
  text : String
  options : List String
  deriving Repr, DecidableEq

namespace Prompt

/-- The cue that asks for an answer at a kind of node. -/
def cueFor : Node.Kind → String
  | .question => "Enter string> "
  | .branching => "Enter choice> "
  | .terminating => "Goodbye (enter anything to exit)> "

/-- The cue of a prompt. -/
def cue (prompt : Prompt) : String :=
  cueFor prompt.kind

/-- The lines that list options, numbered from a given number on. -/
def listing (number : Nat) : List String → String
  | [] => ""
  | option :: rest => s!"{number}. {option}\n" ++ listing (number + 1) rest

/-- The characters that a prompt is shown as. -/
def render (prompt : Prompt) : String :=
  match prompt.kind with
  | .branching => prompt.text ++ "\n" ++ listing 1 prompt.options ++ "\n" ++ prompt.cue
  | _ => prompt.text ++ "\n" ++ prompt.cue

end Prompt

/-- What a node does at its turn: it shows a prompt and waits, or is left at once. -/
inductive Turn where
  | shows (prompt : Prompt)
  | leaves (destination : Nat)
  deriving Repr, DecidableEq

/-- A node's turn at an attempt; a question whose prompts are used up is left for its failure. -/
def Node.Body.turn (bindings : Bindings) (attempt : Nat) : Node.Body → Turn
  | .question _ fail _ prompts =>
      match prompts[attempt]? with
      | some template => .shows ⟨.question, bindings.resolve template, []⟩
      | none => .leaves fail
  | .branching _ asked options _ =>
      .shows ⟨.branching, bindings.resolve asked, options.map Choice.text⟩
  | .terminating message => .shows ⟨.terminating, bindings.resolve message, []⟩

/-- Why nothing can be shown. -/
inductive PromptFault where
  | usedUp (attempt : Int)
  | numeral (fault : Numeral.Fault)
  | outOfRange
  | notAnIndex
  | notANode
  deriving Repr, DecidableEq

/-- The wording of a fault. -/
def PromptFault.message : PromptFault → String
  | .usedUp attempt => s!"Question has no prompt #{attempt + 1}"
  | .numeral fault => fault.message
  | .outOfRange => Script.LookupFault.outOfRange.message
  | .notAnIndex => Script.LookupFault.notAnIndex.message
  | .notANode => "Cannot render node of type BranchOption"

/-- What may be asked to be shown: a node, or a single choice, which never can be. -/
inductive Showable where
  | node (node : Node)
  | choice (choice : Choice)
  deriving Repr, DecidableEq

namespace Showable

/-- The number of attempts at which a node shows something else each time. -/
def attempts : Node.Body → Option Nat
  | .question _ _ _ prompts => some prompts.length
  | _ => none

/-- Why a question shows nothing at an attempt that is none of its positions. -/
def faultAt (count : Nat) (attempt : Int) : PromptFault :=
  if count ≤ attempt then
    if Numeral.isWritable (attempt + 1) then .usedUp attempt else .numeral .unwritable
  else if isIndex attempt then .outOfRange
  else .notAnIndex

/-- What is shown at any attempt, where a negative one counts from the last prompt of a question. -/
def prompt (bindings : Bindings) (attempt : Int) : Showable → Except PromptFault Prompt
  | .choice _ => .error .notANode
  | .node shown =>
      let position : Except PromptFault Nat :=
        match attempts shown.body with
        | none => .ok 0
        | some count =>
            match position? count attempt with
            | some position => .ok position
            | none => .error (faultAt count attempt)
      position.bind fun position =>
        match shown.body.turn bindings position with
        | .shows prompt => .ok prompt
        | .leaves _ => .error (.usedUp attempt)

end Showable

end Dialog
