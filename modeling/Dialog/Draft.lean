import Dialog.Data.Reader
import Dialog.LoadFault
import Dialog.Text.Integer

namespace Dialog

/-!
# Drafts of nodes

A draft is a record before its lines are looked at: a name and any number of
lines, each with its number as plain data. The records of a text become drafts
with the right number of lines and plain numerals; a draft made by hand may be
anything. A field of the node is the content of its line, an integer its value,
and an option is cut at its last colon.
-/

/-- A line of a draft: all its characters, and its number. -/
structure Draft.Line where
  text : String
  number : Data

/-- A record before its lines are looked at. -/
inductive Draft where
  | known (kind : Node.Kind) (lines : List Draft.Line)
  | unknown (name : String)

namespace Draft

/-- The draft of a record with a name. -/
def ofName (name : String) (lines : List Line) : Draft :=
  match Data.kindNamed? name with
  | some kind => .known kind lines
  | none => .unknown name

namespace Line

/-- The content of a line, without the line-end characters that it ends in. -/
def content (line : Line) : String :=
  trimLineEnd line.text

/-- The number that a line's content stands for. -/
def integer (line : Line) : Except LoadFault Int :=
  (Integer.read line.content.toList).mapError .numeral

/-- The line's number as the line of a node. -/
def place (line : Line) : Data.Checked (Option Int) :=
  Data.readLine [.field "line"] line.number

/-- A content cut at its last colon; all of it stands after the cut when there is no colon. -/
def cut (content : List Char) : List Char × List Char :=
  let (after, before) := content.reverse.span (· ≠ ':')
  ((before.drop 1).reverse, after.reverse)

/-- The choice that an option line offers. -/
def choice (line : Line) : Except LoadFault Choice := do
  let (text, spelled) := cut line.content.toList
  let whole ← (Integer.read spelled).mapError .numeral
  let destination ← (Data.checkDestination [.field "destination"] whole).mapError .invalid
  return ⟨String.ofList text, destination⟩

end Line

/-- The number of lines of a record of a kind. -/
def lineCount : Node.Kind → LineCount
  | .question => ⟨4, true⟩
  | .branching => ⟨3, true⟩
  | .terminating => ⟨2, false⟩

/-- The fault of a draft with a wrong number of lines. -/
def miscounted (kind : Node.Kind) (found : Nat) : LoadFault :=
  let expected := lineCount kind
  if found < expected.least then .tooFewLines expected found else .tooManyLines expected

/-- The question that lines describe. -/
def question (tag success fail name : Line) (prompts : List Line) : Except LoadFault Node := do
  let success ← success.integer
  let fail ← fail.integer
  let node :=
    Data.question
      (Data.checkDestination [.field "success"] success)
      (Data.checkDestination [.field "fail"] fail)
      (.ok name.content)
      (.ok (prompts.map Line.content))
      tag.place
  node.mapError .invalid

/-- The choices of a branching node, of which there must be one. -/
def choices : List Choice → Data.Checked Data.Choices
  | [] => .fail .tooShort [.field "options"]
  | first :: more => .ok ⟨first :: more, List.cons_ne_nil first more⟩

/-- The branching node that lines describe. -/
def branching (tag name asked : Line) (options : List Line) : Except LoadFault Node := do
  let options ← options.mapM Line.choice
  (Data.branching (.ok name.content) (.ok asked.content) (choices options) tag.place).mapError
    .invalid

/-- The terminating node that lines describe. -/
def terminating (tag message : Line) : Except LoadFault Node :=
  (Data.terminating (.ok message.content) tag.place).mapError .invalid

/-- The node that a draft describes. -/
def node : Draft → Except LoadFault Node
  | .unknown name => .error (.unknownRecord name)
  | .known .question (tag :: success :: fail :: name :: prompts) =>
      question tag success fail name prompts
  | .known .branching (tag :: name :: asked :: options) => branching tag name asked options
  | .known .terminating [tag, message] => terminating tag message
  | .known kind lines => .error (miscounted kind lines.length)

end Draft

namespace Token

/-- The line of a draft that a token is. -/
def draftLine (token : Token) : Draft.Line :=
  ⟨token.text, .integer token.line⟩

end Token

namespace Record

/-- The draft that a record is. -/
def draft (record : Record) : Draft :=
  .known record.kind (record.tokens.map Token.draftLine)

/-- The node that a record describes. -/
def node (record : Record) : Except LoadFault Node :=
  record.draft.node

end Record

end Dialog
