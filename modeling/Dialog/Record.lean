import Dialog.Node
import Dialog.Text.Line

namespace Dialog

/-!
# Records

A script is written as records, one a node. A record opens with a tag line that
says what kind of node it is, and its fields follow, one a line. `Token` is a
whole line of a record together with the part it plays there; a `Record` holds
its tokens by part, and `Record.tokens` gives them back in reading order.
-/

namespace Tag

/-- What the tag line of a kind of node says. -/
def content : Node.Kind → List Char
  | .question => ['1']
  | .branching => ['2']
  | .terminating => ['3']

/-- The kind of node that a line's content announces, where it is a tag. -/
def read? : List Char → Option Node.Kind
  | ['1'] => some .question
  | ['2'] => some .branching
  | ['3'] => some .terminating
  | _ => none

/-- A line is the tag of a kind exactly when it says what that kind's tag line says. -/
theorem read?_eq_some_iff
    (line : List Char)
    (kind : Node.Kind) :
    read? line = some kind ↔ line = content kind := by
  constructor
  · intro accepted
    unfold read? at accepted
    split at accepted <;> cases accepted <;> rfl
  · rintro rfl
    cases kind <;> rfl

end Tag

/-- The part that a line plays in a record. -/
inductive Part where
  | tag (kind : Node.Kind)
  | integer
  | option
  | text
  deriving Repr, DecidableEq

/-- A line of a record: its part, all its characters, and the number of the line in its text. -/
structure Token where
  part : Part
  text : String
  line : Nat
  deriving Repr, DecidableEq

/-- The lines of one record, by part. -/
inductive Record where
  | question (tag success fail name : Token) (prompts : List Token)
  | branching (tag name asked : Token) (options : List Token)
  | terminating (tag message : Token)
  deriving Repr, DecidableEq

namespace Record

/-- The kind of node that a record describes. -/
def kind : Record → Node.Kind
  | .question .. => .question
  | .branching .. => .branching
  | .terminating .. => .terminating

/-- The lines of a record, in reading order. -/
def tokens : Record → List Token
  | .question tag success fail name prompts => tag :: success :: fail :: name :: prompts
  | .branching tag name asked options => tag :: name :: asked :: options
  | .terminating tag message => [tag, message]

end Record

end Dialog
