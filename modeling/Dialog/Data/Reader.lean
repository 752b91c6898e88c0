import Dialog.Data
import Dialog.Data.Spelling

namespace Dialog.Data

/-!
# Nodes from plain data

An object is a node when its `kind` names one of the three kinds and the fields
of that kind hold values of the right types; fields of other names are ignored.
Numbers may also be given as truth values or as texts that spell them, as forms
and spreadsheets give them. Faults are collected node by node and field by field,
and only data without any is checked for missing destinations.
-/

/-- The bound of the whole numbers that a floating-point number may stand for. -/
def floatBound : Int :=
  Nat.pow 2 63

/-- The whole number that a significand times a power of two is, if it is one. -/
def wholeOfFloat? (significand : Int) : Int → Option Int
  | .ofNat exponent => some (significand * Nat.pow 2 exponent)
  | .negSucc exponent =>
      let divisor : Int := Nat.pow 2 (exponent + 1)
      if significand % divisor = 0 then some (significand / divisor) else none

/-- A whole number. -/
def readInteger (path : List Step) : Data → Checked Int
  | .integer value => .ok value
  | .float significand exponent =>
      match wholeOfFloat? significand exponent with
      | none => .fail .fractional path
      | some whole =>
          if -floatBound < whole ∧ whole < floatBound then .ok whole else .fail .tooLarge path
  | .infinite => .fail .infinite path
  | .boolean value => .ok (if value then 1 else 0)
  | .text value =>
      match Spelling.read value.toList with
      | .ok whole => .ok whole
      | .error .malformed => .fail .notNumeral path
      | .error .overlong => .fail .tooLarge path
  | _ => .fail .notInteger path

/-- A whole number as a destination, which is not negative. -/
def checkDestination (path : List Step) : Int → Checked Nat
  | .ofNat whole => .ok whole
  | .negSucc _ => .fail .negative path

/-- A destination: a whole number that is not negative. -/
def readDestination (path : List Step) (data : Data) : Checked Nat :=
  (readInteger path data).bind (checkDestination path)

/-- A text. -/
def readText (path : List Step) : Data → Checked String
  | .text value => .ok value
  | _ => .fail .notText path

/-- A line number, which may be null. -/
def readLine (path : List Step) : Data → Checked (Option Int)
  | .null => .ok none
  | data => (readInteger path data).map some

/-- The items of a list with their outcomes. -/
def readItems (read : List Step → Data → Checked α) (path : List Step) (items : List Data) :
    List (Checked α) :=
  items.zipIdx.map fun (item, index) => read (path ++ [.item index]) item

/-- A list of texts. -/
def readTexts (path : List Step) : Data → Checked (List String)
  | .list items => .all (readItems readText path items)
  | _ => .fail .notList path

/-- The fields of an object. -/
abbrev Fields : Type :=
  List (String × Data)

/-- A field that must be there. -/
def Fields.required
    (fields : Fields)
    (path : List Step)
    (name : String)
    (read : List Step → Data → Checked α) :
    Checked α :=
  match fields.lookup name with
  | some data => read (path ++ [.field name]) data
  | none => .fail .missing (path ++ [.field name])

/-- A field with a value to take when it is not there. -/
def Fields.optional
    (fields : Fields)
    (path : List Step)
    (name : String)
    (read : List Step → Data → Checked α)
    (absent : α) :
    Checked α :=
  match fields.lookup name with
  | some data => read (path ++ [.field name]) data
  | none => .ok absent

/-- A choice from the fields of an object. -/
def readChoiceFields (path : List Step) (fields : Fields) : Checked Choice :=
  .both Choice.mk
    (fields.required path "text" readText)
    (fields.required path "destination" readDestination)

/-- A choice. -/
def readChoice (path : List Step) : Data → Checked Choice
  | .object fields => readChoiceFields path fields
  | _ => .fail .notObject path

/-- A nonempty list of choices. -/
abbrev Choices : Type :=
  { options : List Choice // options ≠ [] }

/-- Whether an outcome is a value. -/
def isValid : Checked α → Bool
  | .ok _ => true
  | .error _ => false

/--
The choices of a branching node. That there are too few is a fault of its own,
told after those of the choices, when not one of them is valid.
-/
def readChoices (path : List Step) : Data → Checked Choices
  | .list items =>
      let outcomes := readItems readChoice path items
      let enough : Checked Unit := if outcomes.any isValid then .ok () else .fail .tooShort path
      match Checked.both (fun options _ => options) (.all outcomes) enough with
      | .error faults => .error faults
      | .ok [] => .fail .tooShort path
      | .ok (first :: more) => .ok ⟨first :: more, List.cons_ne_nil first more⟩
  | _ => .fail .notList path

/-- That a node which is to be of a kind does not say that it is of another. -/
def readKind (kind : Node.Kind) (path : List Step) : Data → Checked Unit
  | .text name => if name = kind.name then .ok () else .fail .wrongKind path
  | _ => .fail .wrongKind path

/-- A question from the outcomes of its fields. -/
def question
    (success fail : Checked Nat)
    (name : Checked String)
    (prompts : Checked (List String))
    (line : Checked (Option Int)) :
    Checked Node :=
  .both Node.mk
    (.both (fun destinations texts =>
        .question destinations.1 destinations.2 texts.1 texts.2)
      (.both Prod.mk success fail) (.both Prod.mk name prompts))
    line

/-- A branching node from the outcomes of its fields. -/
def branching
    (name asked : Checked String)
    (options : Checked Choices)
    (line : Checked (Option Int)) :
    Checked Node :=
  .both Node.mk
    (.both (fun texts options => .branching texts.1 texts.2 options.1 options.2)
      (.both Prod.mk name asked) options)
    line

/-- A terminating node from the outcomes of its fields. -/
def terminating (message : Checked String) (line : Checked (Option Int)) : Checked Node :=
  .both Node.mk (message.map Node.Body.terminating) line

/-- A node of a known kind from the fields of an object. -/
def readNodeFields (path : List Step) (kind : Node.Kind) (fields : Fields) : Checked Node :=
  let line := fields.optional path "line" readLine none
  let node : Checked Node :=
    match kind with
    | .question =>
        question
          (fields.required path "success" readDestination)
          (fields.required path "fail" readDestination)
          (fields.required path "variable" readText)
          (fields.optional path "prompts" readTexts [])
          line
    | .branching =>
        branching
          (fields.required path "variable" readText)
          (fields.required path "question" readText)
          (fields.required path "options" readChoices)
          line
    | .terminating => terminating (fields.required path "message" readText) line
  .both (fun _ node => node) (fields.optional path "kind" (readKind kind) ()) node

/-- The kind of node that a name stands for. -/
def kindNamed? : String → Option Node.Kind
  | "question" => some .question
  | "branching" => some .branching
  | "terminating" => some .terminating
  | _ => none

/-- A node. Faults of its fields are placed under the name of its kind. -/
def readNode (path : List Step) : Data → Checked Node
  | .object fields =>
      match fields.lookup "kind" with
      | none => .fail .noKind path
      | some (.text name) =>
          match kindNamed? name with
          | some kind => readNodeFields (path ++ [.field name]) kind fields
          | none => .fail .unknownKind path
      | some _ => .fail .unknownKind path
  | _ => .fail .notNode path

/-- A list of nodes. -/
def readNodes (path : List Step) : Data → Checked (List Node)
  | .list items => .all (readItems readNode path items)
  | _ => .fail .notList path

/-- The script that an object's `nodes` make; an object without them is the empty script. -/
def readScript : Data → Checked Script
  | .object fields =>
      match Fields.optional fields [] "nodes" readNodes [] with
      | .error faults => .error faults
      | .ok nodes =>
          match Script.ofNodes nodes with
          | .ok script => .ok script
          | .error fault => .fail (.unusable fault) []
  | _ => .fail .notObject []

end Dialog.Data
