import Dialog.Script

namespace Dialog

/-!
# Plain data

Nodes may also be given as plain data: nested lists and objects of numbers,
texts and truth values. Checking such data collects every fault it has, each
with the path that leads to it; `Checked` is the outcome, and `Checked.both` and
`Checked.all` put outcomes together without losing a fault of either.
-/

/--
Plain data. A number is whole, or a floating-point number: a significand times a
power of two, or too large to be one.
-/
inductive Data where
  | null
  | boolean (value : Bool)
  | integer (value : Int)
  | float (significand exponent : Int)
  | infinite
  | text (value : String)
  | list (items : List Data)
  | object (fields : List (String × Data))
  deriving Repr, Inhabited

namespace Data

/-- One step of a path into data: to a field of an object or to an item of a list. -/
inductive Step where
  | field (name : String)
  | item (index : Nat)
  deriving Repr, DecidableEq

/-- The wording of a step. -/
def Step.text : Step → String
  | .field name => name
  | .item index => toString index

/-- What is wrong at one place of some data. -/
inductive Problem where
  | missing
  | notInteger
  | notNumeral
  | fractional
  | infinite
  | tooLarge
  | negative
  | notText
  | notList
  | notObject
  | notNode
  | noKind
  | unknownKind
  | wrongKind
  | tooShort
  | unusable (fault : Script.Fault)
  deriving Repr, DecidableEq

/-- The code of a problem. -/
def Problem.code : Problem → String
  | .missing => "missing"
  | .notInteger => "int_type"
  | .notNumeral => "int_parsing"
  | .fractional => "int_from_float"
  | .infinite => "finite_number"
  | .tooLarge => "int_parsing_size"
  | .negative => "greater_than_equal"
  | .notText => "string_type"
  | .notList => "tuple_type"
  | .notObject => "model_type"
  | .notNode => "model_attributes_type"
  | .noKind => "union_tag_not_found"
  | .unknownKind => "union_tag_invalid"
  | .wrongKind => "literal_error"
  | .tooShort => "too_short"
  | .unusable _ => "value_error"

/-- The wording of a problem that is not told by its code alone. -/
def Problem.message? : Problem → Option String
  | .unusable fault => some s!"Value error, {fault.message}"
  | _ => none

/-- A problem and the path that leads to it. -/
structure Fault where
  problem : Problem
  path : List Step
  deriving Repr, DecidableEq

/-- The steps of a fault's path, joined by points. -/
def Fault.location (fault : Fault) : String :=
  String.intercalate "." (fault.path.map Step.text)

/-- The outcome of checking data: a value, or all the faults found. -/
abbrev Checked (α : Type) : Type :=
  Except (List Fault) α

namespace Checked

/-- A single fault. -/
def fail (problem : Problem) (path : List Step) : Checked α :=
  .error [⟨problem, path⟩]

/-- Two outcomes together; the faults of both are kept, in order. -/
def both (combine : α → β → γ) : Checked α → Checked β → Checked γ
  | .ok first, .ok second => .ok (combine first second)
  | .ok _, .error faults => .error faults
  | .error faults, .ok _ => .error faults
  | .error faults, .error more => .error (faults ++ more)

/-- All outcomes of a list together, in order. -/
def all (outcomes : List (Checked α)) : Checked (List α) :=
  outcomes.foldr (both List.cons) (.ok [])

end Checked

end Data

end Dialog
