import Dialog.Text.Blank
import Dialog.Text.Numeral

namespace Dialog.Spelling

/-!
# Spellings of whole numbers

Data may give a whole number as a text. `strict` reads the plain decimal form:
a minus sign or none, and digits without a leading zero. A text that is not of
that form is brought to it if it can be (`relaxed?`): blanks around it, a plus
sign, a fraction of zeros, zeros in front and single underscores are dropped.
A run of digits that is too long is told of only when the text as it is given
begins with it.
-/

/-- Why a text is not read as a whole number. -/
inductive Fault where
  | malformed
  | overlong
  deriving Repr, DecidableEq

/-- Whether a text has a minus sign, and the text without it. -/
def splitMinus : List Char → Bool × List Char
  | '-' :: rest => (true, rest)
  | rest => (false, rest)

/-- The whole number whose plain decimal form a text is. -/
def strict (text : List Char) : Except Fault Int :=
  let (negative, unsigned) := splitMinus text
  let run := unsigned.takeWhile Char.isDigit
  if run.head? = some '0' then
    if unsigned = ['0'] then .ok 0 else .error .malformed
  else if Numeral.digitLimit < run.length then .error .overlong
  else if run.isEmpty || run.length < unsigned.length then .error .malformed
  else
    let magnitude : Int := Numeral.value run
    .ok (if negative then -magnitude else magnitude)

/--
The minus sign of a text, if it has one, and the text without its sign. A plus
sign with a minus sign after it is none.
-/
def splitSign? : List Char → Option (List Char × List Char)
  | '+' :: '-' :: _ => none
  | '+' :: rest => some ([], rest)
  | '-' :: rest => some (['-'], rest)
  | text => some ([], text)

/-- A text without a fraction that is nothing but zeros. -/
def withoutFraction (text : List Char) : List Char :=
  match text.dropWhile (· ≠ '.') with
  | '.' :: '0' :: zeros => if zeros.all (· = '0') then text.takeWhile (· ≠ '.') else text
  | _ => text

/-- Whether a character may begin a plain decimal form that is not zero. -/
def isLeading (character : Char) : Bool :=
  character = '-' || ('1' ≤ character && character ≤ '9')

/--
A text without the zeros in front, and without the underscores among them. Of
zeros alone the last character is left; no other text may begin with anything
but a minus sign or a digit once they are gone.
-/
def withoutLeadingZeros? (text : List Char) : Option (List Char) :=
  match text with
  | '0' :: rest =>
      match rest.dropWhile fun character => character = '0' || character = '_' with
      | [] => some text.getLast?.toList
      | next :: more => if isLeading next then some (next :: more) else none
  | first :: _ => if isLeading first then some text else none
  | [] => none

/-- A text without underscores, when each stands alone between other characters. -/
def withoutUnderscores (text : List Char) : List Char :=
  let groups := text.splitOn '_'
  if groups.any List.isEmpty then text else groups.flatten

/-- A text brought to the plain decimal form, if that can be done. -/
def relaxed? (text : List Char) : Option (List Char) := do
  let (sign, unsigned) ← splitSign? (trimBlanks text)
  let significant ← withoutLeadingZeros? (withoutFraction unsigned)
  return sign ++ withoutUnderscores significant

/-- The whole number that a text spells. -/
def read (text : List Char) : Except Fault Int :=
  match strict text with
  | .error .malformed =>
      ((relaxed? text).elim (.error .malformed) strict).mapError fun _ => .malformed
  | outcome => outcome

end Dialog.Spelling
