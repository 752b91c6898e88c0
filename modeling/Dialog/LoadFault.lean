import Dialog.Data
import Dialog.Record.Reader

namespace Dialog

/-!
# Faults of taking up a script

What may go wrong on the way from a text to a script that can be played: the
text is no sequence of records, a record makes no node, the nodes make no
script, or the script has no node to start at.
-/

/-- How many lines a record of a kind has: so many, or so many at least. -/
structure LineCount where
  least : Nat
  more : Bool
  deriving Repr, DecidableEq

/-- The wording of a number of lines. -/
def LineCount.text (count : LineCount) : String :=
  if count.more then s!"at least {count.least}" else s!"{count.least}"

/-- Why a text, or its records, make no script that can be played. -/
inductive LoadFault where
  | grammar (fault : Record.Fault)
  | unknownRecord (name : String)
  | tooFewLines (expected : LineCount) (found : Nat)
  | tooManyLines (expected : LineCount)
  | numeral (fault : Numeral.Fault)
  | invalid (faults : List Data.Fault)
  | unusable (fault : Script.Fault)
  | empty
  deriving Repr, DecidableEq

namespace LoadFault

/-- The class of a fault, as reports name it. -/
def className : LoadFault → String
  | .grammar _ => "ParseError"
  | .unknownRecord _ => "ParseError"
  | .tooFewLines .. => "ValueError"
  | .tooManyLines _ => "ValueError"
  | .numeral _ => "ValueError"
  | .invalid _ => "ValidationError"
  | .unusable _ => "SemanticError"
  | .empty => "SemanticError"

/-- The wording of a fault. -/
def message : LoadFault → String
  | .grammar fault => fault.message
  | .unknownRecord name => s!"Cannot handle record '{name}'"
  | .tooFewLines expected found =>
      s!"not enough values to unpack (expected {expected.text}, got {found})"
  | .tooManyLines expected => s!"too many values to unpack (expected {expected.text})"
  | .numeral fault => fault.message
  | .invalid faults =>
      String.intercalate "; " (faults.map fun fault => s!"{fault.location}: {fault.problem.code}")
  | .unusable fault => fault.message
  | .empty => "Script defines no nodes"

/-- The line that a fault is reported at, where it has one. -/
def line? : LoadFault → Option Nat
  | .grammar fault => some fault.line
  | _ => none

/-- The column that a fault is reported at, where it has one. -/
def column? : LoadFault → Option Nat
  | .grammar fault => some fault.column
  | _ => none

end LoadFault

end Dialog
