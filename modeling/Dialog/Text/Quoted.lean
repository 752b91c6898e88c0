import Dialog.Text.Printable

namespace Dialog.Quoted

/-!
# Quoted text

Messages quote a text between marks so that its ends and its invisible
characters can be seen. The mark is the apostrophe, unless the text holds an
apostrophe and no double quote. A backslash and the mark are escaped by a
backslash, the line ends and the tab by their letters, and every other
character that is not printable by its code point in the shortest of three
fixed-width hexadecimal forms.
-/

/-- The mark around a text: the double quote only where it saves an escape. -/
def mark (text : List Char) : Char :=
  if '\'' ∈ text ∧ '"' ∉ text then '"' else '\''

/-- The hexadecimal digits of a number, filled with zeros on the left to a width. -/
def hexadecimal (width number : Nat) : List Char :=
  let digits := Nat.toDigits 16 number
  List.replicate (width - digits.length) '0' ++ digits

/-- A character that is not printable, by its code point. -/
def escapeCode (character : Char) : List Char :=
  let code := character.toNat
  if code < 0x100 then '\\' :: 'x' :: hexadecimal 2 code
  else if code < 0x10000 then '\\' :: 'u' :: hexadecimal 4 code
  else '\\' :: 'U' :: hexadecimal 8 code

/-- One character of a quoted text, given the mark that surrounds it. -/
def escape (surrounding character : Char) : List Char :=
  if character = '\\' ∨ character = surrounding then ['\\', character]
  else if character = '\n' then ['\\', 'n']
  else if character = '\r' then ['\\', 'r']
  else if character = '\t' then ['\\', 't']
  else if isPrintable character then [character]
  else escapeCode character

/-- A text between marks, with its marks and invisible characters escaped. -/
def write (text : List Char) : List Char :=
  let surrounding := mark text
  surrounding :: (text.flatMap (escape surrounding) ++ [surrounding])

end Dialog.Quoted

namespace Dialog

/-- The quoted form of a text. -/
def quoted (text : String) : String :=
  String.ofList (Quoted.write text.toList)

end Dialog
