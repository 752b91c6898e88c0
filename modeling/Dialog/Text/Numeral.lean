import Dialog.Text.Quoted

namespace Dialog.Numeral

/-!
# Decimal numerals

A numeral is a nonempty run of ASCII digits, leading zeros included. Reading
one refuses runs longer than `digitLimit` before it looks at their value, so a
numeral is read exactly when it is short enough; `read_write` says that the
plain decimal form of every number of at most that many digits reads back. A
number with more digits is not written either.
-/

/-- The most digits a numeral may have; leading zeros count. -/
def digitLimit : Nat := 4300

/-- The most characters of a malformed text that its fault quotes, the first mark included. -/
def quoteLimit : Nat := 200

/-- Why a text is not read as a number, or a number not written. -/
inductive Fault where
  | malformed (text : String)
  | overlong (digits : Nat)
  | unwritable
  deriving Repr, DecidableEq

/-- The wording of a numeral's fault. -/
def Fault.message : Fault → String
  | .malformed text =>
      let shown := String.ofList ((Quoted.write text.toList).take quoteLimit)
      s!"invalid literal for int() with base 10: {shown}"
  | .overlong digits =>
      s!"Exceeds the limit ({digitLimit} digits) for integer string conversion: " ++
        s!"value has {digits} digits; use sys.set_int_max_str_digits() to increase the limit"
  | .unwritable =>
      s!"Exceeds the limit ({digitLimit} digits) for integer string conversion; " ++
        "use sys.set_int_max_str_digits() to increase the limit"

/-- Whether a whole number has few enough digits to be written. -/
def isWritable (number : Int) : Bool :=
  number.natAbs < Nat.pow 10 digitLimit

/-- A whole number as it is written, with its sign, when it has few enough digits. -/
def spell (number : Int) : Except Fault String :=
  if isWritable number then .ok (toString number) else .error .unwritable

/-- A number of as many digits as a one and `digitLimit` zeros has cannot be written. -/
theorem not_isWritable_of_le
    {number : Int}
    (large : Nat.pow 10 digitLimit ≤ number.natAbs) :
    ¬isWritable number = true := by
  rw [isWritable, decide_eq_true_eq]
  exact Nat.not_lt.mpr large

/-- Whether a text is a nonempty run of ASCII digits. -/
def isNumeral (text : List Char) : Bool :=
  !text.isEmpty && text.all Char.isDigit

/-- The value of a run of decimal digits. -/
def value (digits : List Char) : Nat :=
  Nat.ofDigitChars 10 digits 0

/-- The number that a numeral stands for. -/
def read (text : List Char) : Except Fault Nat :=
  if isNumeral text then
    if text.length ≤ digitLimit then .ok (value text) else .error (.overlong text.length)
  else
    .error (.malformed (String.ofList text))

/-- The plain decimal form of a number. -/
def write (number : Nat) : List Char :=
  Nat.toDigits 10 number

/-- The plain decimal form is a numeral. -/
theorem isNumeral_write (number : Nat) : isNumeral (write number) = true := by
  have digitsOnly : (write number).all Char.isDigit = true := by
    rw [List.all_eq_true]
    intro character member
    exact Nat.isDigit_of_mem_toDigits (by decide) (by decide) member
  have nonempty : (write number).isEmpty = false := by
    simp [write]
  simp [isNumeral, digitsOnly, nonempty]

/-- The plain decimal form has the number as its value. -/
theorem value_write (number : Nat) : value (write number) = number :=
  Nat.ofDigitChars_toDigits (by decide) (by decide)

/-- The plain decimal form of a number short enough to be read reads back. -/
theorem read_write
    (number : Nat)
    (short : (write number).length ≤ digitLimit) :
    read (write number) = .ok number := by
  simp [read, isNumeral_write, short, value_write]

end Dialog.Numeral
