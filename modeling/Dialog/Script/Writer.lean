import Dialog.Record
import Dialog.Script
import Dialog.Text.Numeral

namespace Dialog

/-!
# Writing scripts

A script is written record by record: the tag line of a node, and its fields one
a line, numbers in plain decimal and a choice as its text, a colon and its
destination. Not every script can be written so that it reads back. `Writable`
says which can: no text but that of a choice is empty, none holds a line end, no
prompt is what a tag line says, and no choice's text holds a colon.
-/

namespace Choice

/-- The line that a choice is written as. -/
def content (choice : Choice) : List Char :=
  choice.text.toList ++ ':' :: Numeral.write choice.destination

end Choice

/-- Whether a text can be the content of a line that is not blank. -/
def IsContent (text : String) : Prop :=
  text.toList ≠ [] ∧ '\n' ∉ text.toList ∧ '\r' ∉ text.toList

instance (text : String) : Decidable (IsContent text) :=
  inferInstanceAs (Decidable (_ ∧ _ ∧ _))

namespace Node.Body

/-- The contents of the lines that a node is written as. -/
def contents : Node.Body → List (List Char)
  | .question success fail name prompts =>
      Tag.content .question :: Numeral.write success :: Numeral.write fail :: name.toList ::
        prompts.map String.toList
  | .branching name asked options _ =>
      Tag.content .branching :: name.toList :: asked.toList :: options.map Choice.content
  | .terminating message => [Tag.content .terminating, message.toList]

/-- A node that reads back from the lines that it is written as. -/
def Writable : Node.Body → Prop
  | .question _ _ name prompts =>
      IsContent name ∧ ∀ prompt ∈ prompts, IsContent prompt ∧ Tag.read? prompt.toList = none
  | .branching name asked options _ =>
      IsContent name ∧ IsContent asked ∧
        ∀ option ∈ options,
          ':' ∉ option.text.toList ∧ '\n' ∉ option.text.toList ∧ '\r' ∉ option.text.toList
  | .terminating message => IsContent message

end Node.Body

namespace Script

/-- A script all of whose nodes can be written. -/
def Writable (script : Script) : Prop :=
  ∀ node ∈ script.nodes, node.body.Writable

/-- The text of a script. -/
def write (script : Script) : String :=
  let contents := script.nodes.toList.flatMap fun node => node.body.contents
  String.ofList (contents.flatMap fun content => content ++ ['\n'])

/-- What the nodes of a script do, without where they stand in a text. -/
def bodies (script : Script) : List Node.Body :=
  script.nodes.toList.map Node.body

end Script

end Dialog
