import Dialog.Data

namespace Dialog.Data

/-!
# Plain data from nodes

The plain data of a script lists its nodes with their kinds and all their
fields, so that reading it gives the script back.
-/

/-- The plain data of a choice. -/
def ofChoice (choice : Choice) : Data :=
  .object [("text", .text choice.text), ("destination", .integer choice.destination)]

/-- The fields of a node's body. -/
def fieldsOfBody : Node.Body → List (String × Data)
  | .question success fail name prompts =>
      [("success", .integer success), ("fail", .integer fail), ("variable", .text name),
        ("prompts", .list (prompts.map .text))]
  | .branching name asked options _ =>
      [("variable", .text name), ("question", .text asked),
        ("options", .list (options.map ofChoice))]
  | .terminating message => [("message", .text message)]

/-- The line of a node, or null. -/
def ofLine : Option Int → Data
  | some line => .integer line
  | none => .null

/-- The plain data of a node. -/
def ofNode (node : Node) : Data :=
  .object
    (("kind", .text node.kind.name) :: fieldsOfBody node.body ++ [("line", ofLine node.line)])

/-- The plain data of a script. -/
def ofScript (script : Script) : Data :=
  .object [("nodes", .list (script.nodes.toList.map ofNode))]

end Dialog.Data
