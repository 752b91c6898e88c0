import Dialog.Text.Blank
import Dialog.Text.Digit
import Dialog.Text.Numeral

namespace Dialog.Integer

/-!
# Integers as they are written

An integer is a run of digits of any scripts, in which single underscores may
separate groups, with an optional sign before it and blanks around it all. A run
with too many digits is refused before anything that follows it is looked at.
`read_of_isNumeral` says that a numeral is read as the number that it stands for.
-/

/-- Whether a character may stand in a run of grouped digits. -/
def inRun (character : Char) : Bool :=
  character.isDigit || character = '_'

/-- Whether a text has a minus sign, and the text without its sign. -/
def splitSign : List Char → Bool × List Char
  | '-' :: rest => (true, rest)
  | '+' :: rest => (false, rest)
  | rest => (false, rest)

/-- A magnitude with its sign. -/
def signed (negative : Bool) (magnitude : Nat) : Int :=
  if negative then -(magnitude : Int) else magnitude

/-- The integer that a text spells. -/
def read (text : List Char) : Except Numeral.Fault Int :=
  let spelled := (text.dropWhile isBlank).map Digit.toAscii
  let (negative, unsigned) := splitSign spelled
  let groups := (unsigned.takeWhile inRun).splitOn '_'
  let digits := groups.flatten
  if !groups.all Numeral.isNumeral then .error (.malformed (String.ofList text))
  else if Numeral.digitLimit < digits.length then .error (.overlong digits.length)
  else if (unsigned.dropWhile inRun).all isBlank then .ok (signed negative (Numeral.value digits))
  else .error (.malformed (String.ofList text))

/-- A text that begins with a digit has no sign. -/
theorem splitSign_of_isDigit
    (first : Char)
    (rest : List Char)
    (digit : first.isDigit = true) :
    splitSign (first :: rest) = (false, first :: rest) := by
  unfold splitSign
  split
  · rename_i same
    cases same
    exact absurd digit (by decide)
  · rename_i same
    cases same
    exact absurd digit (by decide)
  · rfl

/-- A numeral is read as a numeral. -/
theorem read_of_isNumeral
    (text : List Char)
    (numeral : Numeral.isNumeral text = true) :
    read text = (Numeral.read text).map Int.ofNat := by
  have digits : ∀ character ∈ text, character.isDigit = true := by
    have both := numeral
    simp only [Numeral.isNumeral, Bool.and_eq_true, List.all_eq_true] at both
    exact both.2
  cases text with
  | nil => simp [Numeral.isNumeral] at numeral
  | cons first rest =>
      have digit : first.isDigit = true := digits first List.mem_cons_self
      have unblank : (first :: rest).dropWhile isBlank = first :: rest := by
        rw [List.dropWhile_cons, isBlank_of_isDigit first digit]
        rfl
      have ascii : (first :: rest).map Digit.toAscii = first :: rest := by
        have same := List.map_congr_left fun character member =>
          Digit.toAscii_of_isDigit character (digits character member)
        exact same.trans (List.map_id' _)
      have allInRun : ∀ character ∈ first :: rest, inRun character = true := by
        intro character member
        simp [inRun, digits character member]
      have whole : first :: rest ++ [] = first :: rest := List.append_nil _
      have run : (first :: rest).takeWhile inRun = first :: rest := by
        rw [← whole, List.takeWhile_append_of_pos allInRun, List.takeWhile_nil]
      have after : (first :: rest).dropWhile inRun = [] := by
        rw [← whole, List.dropWhile_append_of_pos allInRun, List.dropWhile_nil]
      have single : '_' ∉ first :: rest := by
        intro member
        exact absurd (digits '_' member) (by decide)
      have groups : (first :: rest).splitOn '_' = [first :: rest] :=
        List.splitOn_eq_singleton single
      have flat : [first :: rest].flatten = first :: rest := List.append_nil _
      have numerals : [first :: rest].all Numeral.isNumeral = true := by
        rw [List.all_cons, numeral]
        rfl
      simp only [read, unblank, ascii, splitSign_of_isDigit first rest digit, run, after, groups,
        flat, numerals, Numeral.read, numeral]
      by_cases short : (first :: rest).length ≤ Numeral.digitLimit
      · have notLong : ¬Numeral.digitLimit < (first :: rest).length := Nat.not_lt.2 short
        rw [if_pos short, if_neg notLong]
        rfl
      · have long : Numeral.digitLimit < (first :: rest).length := Nat.lt_of_not_le short
        rw [if_neg short, if_pos long]
        rfl

end Dialog.Integer
