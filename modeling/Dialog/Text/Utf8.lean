import Dialog.Text.Quoted

namespace Dialog.Utf8

/-!
# Strict UTF-8

Bytes are text exactly when they are well-formed UTF-8. When they are not,
`locate` runs over them byte by byte and names the first sequence that no
well-formed text contains: where it starts, how many of its bytes were still
good, and whether the next byte or the end of the bytes broke it.
-/

/-- What is wrong with a sequence of bytes. -/
inductive Defect where
  | invalidStart
  | invalidContinuation
  | unexpectedEnd
  deriving Repr, DecidableEq

/-- The wording of a defect. -/
def Defect.message : Defect → String
  | .invalidStart => "invalid start byte"
  | .invalidContinuation => "invalid continuation byte"
  | .unexpectedEnd => "unexpected end of data"

/-- The first bytes that are not text: `length` of them from `position`, the first being `first`. -/
structure Fault where
  first : UInt8
  position : Nat
  length : Nat
  defect : Defect
  deriving Repr, DecidableEq

/-- The wording of a fault: one byte is shown, several are given by their positions. -/
def Fault.message (fault : Fault) : String :=
  let shown := String.ofList (Quoted.hexadecimal 2 fault.first.toNat)
  let reason := fault.defect.message
  if fault.length ≤ 1 then
    s!"'utf-8' codec can't decode byte 0x{shown} in position {fault.position}: {reason}"
  else
    let final := fault.position + fault.length - 1
    s!"'utf-8' codec can't decode bytes in position {fault.position}-{final}: {reason}"

/-- A sequence whose first bytes have been read and which needs more. -/
structure Pending where
  first : UInt8
  position : Nat
  length : Nat
  missing : Nat
  lower : UInt8
  upper : UInt8
  deriving Repr, DecidableEq

/-- The fault that a pending sequence becomes. -/
def Pending.fault (pending : Pending) (defect : Defect) : Fault :=
  { first := pending.first, position := pending.position, length := pending.length,
    defect := defect }

/--
The sequence that a lead byte opens. The second byte of some sequences is bound
more tightly, so that no character has two forms and no surrogate has one.
-/
def Pending.open? (lead : UInt8) (position : Nat) : Option Pending :=
  if 0xC2 ≤ lead ∧ lead ≤ 0xDF then some ⟨lead, position, 1, 1, 0x80, 0xBF⟩
  else if lead = 0xE0 then some ⟨lead, position, 1, 2, 0xA0, 0xBF⟩
  else if lead = 0xED then some ⟨lead, position, 1, 2, 0x80, 0x9F⟩
  else if 0xE1 ≤ lead ∧ lead ≤ 0xEF then some ⟨lead, position, 1, 2, 0x80, 0xBF⟩
  else if lead = 0xF0 then some ⟨lead, position, 1, 3, 0x90, 0xBF⟩
  else if 0xF1 ≤ lead ∧ lead ≤ 0xF3 then some ⟨lead, position, 1, 3, 0x80, 0xBF⟩
  else if lead = 0xF4 then some ⟨lead, position, 1, 3, 0x80, 0x8F⟩
  else none

/-- What is still needed after one more good byte; `none` when the sequence is complete. -/
def Pending.advance (pending : Pending) : Option Pending :=
  if pending.missing ≤ 1 then none
  else some
    { pending with
      length := pending.length + 1, missing := pending.missing - 1, lower := 0x80, upper := 0xBF }

/-- The first fault of the bytes from a position on, inside a pending sequence or between two. -/
def locate (position : Nat) : Option Pending → List UInt8 → Option Fault
  | none, [] => none
  | some pending, [] => some (pending.fault .unexpectedEnd)
  | none, byte :: rest =>
      if byte < 0x80 then locate (position + 1) none rest
      else
        match Pending.open? byte position with
        | none => some ⟨byte, position, 1, .invalidStart⟩
        | some pending => locate (position + 1) (some pending) rest
  | some pending, byte :: rest =>
      if pending.lower ≤ byte ∧ byte ≤ pending.upper then
        locate (position + 1) pending.advance rest
      else
        some (pending.fault .invalidContinuation)

/-- The text that well-formed bytes hold, or the first fault of bytes that hold none. -/
def read (bytes : ByteArray) : Except Fault String :=
  match String.fromUTF8? bytes with
  | some text => .ok text
  | none =>
      .error ((locate 0 none bytes.toList).getD ⟨0, bytes.size, 0, .unexpectedEnd⟩)

end Dialog.Utf8
