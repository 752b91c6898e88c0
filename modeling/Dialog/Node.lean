import Dialog.Text.Numeral

namespace Dialog

/-!
# Nodes of a script

A node asks for a text, offers numbered choices, or says goodbye. Its
destinations are ids of nodes, or `terminal`, which stands for the end of a
session and never names a node. A branching node offers at least one choice;
that is part of its type.
-/

/-- The id that stands for the end of a session. -/
def terminal : Nat := 9999

/-- One answer that a branching node offers, and where it leads. -/
structure Choice where
  text : String
  destination : Nat
  deriving Repr, DecidableEq

namespace Node

/-- The three kinds of node. -/
inductive Kind where
  | question
  | branching
  | terminating
  deriving Repr, DecidableEq

/-- The name of a kind. -/
def Kind.name : Kind → String
  | .question => "question"
  | .branching => "branching"
  | .terminating => "terminating"

/--
What a node does. A question shows its prompts in turn, one at each blank
answer, and binds its name to the first answer that is not blank. A branching
node binds its name to the text of the choice made. A terminating node only
shows its message.
-/
inductive Body where
  | question (success fail : Nat) (name : String) (prompts : List String)
  | branching (name asked : String) (options : List Choice) (nonempty : options ≠ [])
  | terminating (message : String)
  deriving Repr, DecidableEq

/-- The kind of node with a given body. -/
def Body.kind : Body → Kind
  | .question .. => .question
  | .branching .. => .branching
  | .terminating .. => .terminating

/-- Where an answer may lead, in the order in which the node lists it. -/
def Body.destinations : Body → List Nat
  | .question success fail _ _ => [success, fail]
  | .branching _ _ options _ => options.map Choice.destination
  | .terminating _ => [terminal]

/-- The name that a node binds. -/
def Body.name? : Body → Option String
  | .question _ _ name _ => some name
  | .branching name _ _ _ => some name
  | .terminating _ => none

/-- Whether a node is a question that has nothing to show. -/
def Body.isPromptless : Body → Bool
  | .question _ _ _ prompts => prompts.isEmpty
  | _ => false

/-- Every node leads somewhere. -/
theorem Body.destinations_ne_nil (body : Body) : body.destinations ≠ [] := by
  cases body with
  | question => simp [destinations]
  | branching _ _ options nonempty => simpa [destinations] using nonempty
  | terminating => simp [destinations]

end Node

/-- A node, with the line of the text that its record starts at, where there is one. -/
structure Node where
  body : Node.Body
  line : Option Int
  deriving Repr, DecidableEq

namespace Node

/-- The kind of a node. -/
def kind (node : Node) : Kind :=
  node.body.kind

/-- Where an answer to the node may lead. -/
def destinations (node : Node) : List Nat :=
  node.body.destinations

/-- How a message places a node in its text, if the number of its line can be written. -/
def place (node : Node) : Except Numeral.Fault String :=
  match node.line with
  | some line => (Numeral.spell line).map fun written => s!" (line {written})"
  | none => .ok ""

/-- Whether a message can place a node: no number of a line is too long to be written. -/
def isPlaceable (node : Node) : Bool :=
  node.line.all Numeral.isWritable

/-- A node can be placed when its line, if it has one, has a number that can be written. -/
theorem isPlaceable_iff (node : Node) :
    node.isPlaceable = true ↔ ∀ line, node.line = some line → Numeral.isWritable line = true := by
  rw [isPlaceable, Option.all_eq_true]

/-- The place of a node is the number of its line in brackets, and nothing where it has none. -/
theorem place_of_isPlaceable
    (node : Node)
    (placeable : node.isPlaceable = true) :
    node.place = .ok (node.line.elim "" fun line => s!" (line {line})") := by
  unfold place
  cases told : node.line with
  | none => rfl
  | some line =>
      have writable := node.isPlaceable_iff.mp placeable line told
      simp only [Numeral.spell, if_pos writable]
      rfl

/-- Where a node cannot be placed, the number of its line is at fault. -/
theorem place_of_not_isPlaceable
    (node : Node)
    (displaced : ¬node.isPlaceable = true) :
    node.place = .error .unwritable := by
  unfold place
  cases told : node.line with
  | none => simp [isPlaceable_iff, told] at displaced
  | some line =>
      have unwritable : ¬Numeral.isWritable line = true := by
        simpa only [isPlaceable_iff, told, Option.some.injEq, forall_eq'] using displaced
      simp only [Numeral.spell, if_neg unwritable]
      rfl

end Node

end Dialog
