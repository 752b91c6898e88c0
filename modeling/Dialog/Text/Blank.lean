namespace Dialog.Blank

/-!
# Blank characters

The characters with the property White_Space: the line ends and tabs, the blank
itself, and the spaces and separators of other scripts. They may stand around a
number without changing it.
-/

/-- The ranges of blank characters, both ends included, in increasing order. -/
def ranges : List (Nat × Nat) :=
  [(0x9, 0xD), (0x20, 0x20), (0x85, 0x85), (0xA0, 0xA0), (0x1680, 0x1680), (0x2000, 0x200A),
    (0x2028, 0x2029), (0x202F, 0x202F), (0x205F, 0x205F), (0x3000, 0x3000)]

end Dialog.Blank

namespace Dialog

/-- Whether a character is blank. -/
def isBlank (character : Char) : Bool :=
  Blank.ranges.any fun (first, last) => first ≤ character.toNat && character.toNat ≤ last

/-- A digit is not blank. -/
theorem isBlank_of_isDigit
    (character : Char)
    (digit : character.isDigit = true) :
    isBlank character = false := by
  simp only [Char.isDigit, Bool.and_eq_true, decide_eq_true_eq, ge_iff_le, UInt32.le_iff_toNat_le]
    at digit
  have least : 48 ≤ character.toNat := digit.1
  have greatest : character.toNat ≤ 57 := digit.2
  simp only [isBlank, Blank.ranges, List.any_cons, List.any_nil, Bool.or_false,
    Bool.or_eq_false_iff, Bool.and_eq_false_iff, decide_eq_false_iff_not]
  omega

/-- A text without the blanks at its two ends. -/
def trimBlanks (text : List Char) : List Char :=
  ((text.dropWhile isBlank).reverse.dropWhile isBlank).reverse

end Dialog
