namespace Dialog

/-!
# Positions counted from either end

The items of a sequence are numbered from zero, and from minus one backwards for
who counts from the end. Every other number is out of range, and a number that
does not fit 64 bits with a sign is no index at all.
-/

/-- The bound of the numbers that may stand for a position. -/
def indexBound : Int :=
  Nat.pow 2 63

/-- Whether a number may stand for a position. -/
def isIndex (number : Int) : Bool :=
  -indexBound ≤ number && number < indexBound

/--
The position among `count` items that a number stands for; a negative one counts from the
end.
-/
def position? (count : Nat) : Int → Option Nat
  | .ofNat position => if position < count then some position else none
  | .negSucc before => if before < count then some (count - (before + 1)) else none

/-- A position found is in range. -/
theorem position?_lt
    (count : Nat)
    (number : Int)
    (position : Nat)
    (found : position? count number = some position) :
    position < count := by
  cases number with
  | ofNat here =>
      simp only [position?] at found
      split at found <;> simp_all
  | negSucc before =>
      simp only [position?] at found
      split at found
      · simp only [Option.some.injEq] at found
        omega
      · simp at found

end Dialog
