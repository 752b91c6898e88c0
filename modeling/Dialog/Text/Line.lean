namespace Dialog

/-!
# Lines of text

A line ends in a line feed or in a carriage return and a line feed. The last
line of a text may lack its end, which is then taken to be a line feed. A
carriage return anywhere else leaves a line that cannot be read.

A file and a console are first brought to line feeds only (`unified`), so no
carriage return of theirs reaches `Line.read?`.
-/

/-- How a line ends. -/
inductive Terminator where
  | lineFeed
  | carriageReturnLineFeed
  deriving Repr, DecidableEq

/-- The characters of a line's end. -/
def Terminator.characters : Terminator → List Char
  | .lineFeed => ['\n']
  | .carriageReturnLineFeed => ['\r', '\n']

/-- A readable line: what it says and how it ends. -/
structure Line where
  content : List Char
  terminator : Terminator
  deriving Repr, DecidableEq

namespace Line

/-- The whole line, its end included. -/
def characters (line : Line) : List Char :=
  line.content ++ line.terminator.characters

/-- Whether the line says nothing. -/
def isBlank (line : Line) : Bool :=
  line.content.isEmpty

/--
The line whose characters before the line feed are given, unless a carriage return stands
inside it.
-/
def read? (raw : List Char) : Option Line :=
  let line : Line :=
    if raw.getLast? = some '\r' then ⟨raw.dropLast, .carriageReturnLineFeed⟩
    else ⟨raw, .lineFeed⟩
  if '\r' ∈ line.content then none else some line

end Line

namespace Text

/-- The lines of a text, each without its line feed; a last line may lack one. -/
def lines (text : List Char) : List (List Char) :=
  let pieces := text.splitOn '\n'
  if pieces.getLast? = some [] then pieces.dropLast else pieces

/-- A line feed ends a line, and the lines of the text after it follow. -/
theorem lines_append_lineFeed
    (before rest : List Char) :
    lines (before ++ '\n' :: rest) = before.splitOn '\n' ++ lines rest := by
  have restNonempty : rest.splitOn '\n' ≠ [] := List.splitOn_ne_nil '\n' rest
  have sameLast :
      (before.splitOn '\n' ++ rest.splitOn '\n').getLast? = (rest.splitOn '\n').getLast? := by
    rw [List.getLast?_append, List.getLast?_eq_some_getLast restNonempty, Option.some_or]
  simp only [lines, List.splitOn_append_cons_self, sameLast]
  by_cases unfinished : (rest.splitOn '\n').getLast? = some []
  · rw [if_pos unfinished, if_pos unfinished]
    exact List.dropLast_append_of_ne_nil restNonempty
  · rw [if_neg unfinished, if_neg unfinished]

/-- The first line of a text that begins with a whole line is that line. -/
theorem lines_line
    (line rest : List Char)
    (single : '\n' ∉ line) :
    lines (line ++ '\n' :: rest) = line :: lines rest := by
  rw [lines_append_lineFeed, List.splitOn_eq_singleton single]
  rfl

/-- Whether a character belongs to a line's end. -/
def isLineEnd (character : Char) : Bool :=
  character = '\r' || character = '\n'

/-- A text without the line-end characters that it ends in. -/
def trimLineEnd (text : List Char) : List Char :=
  (text.reverse.dropWhile isLineEnd).reverse

/-- Prepends to a text whose line ends are being unified the characters already done, last first. -/
def unifiedOnto (done : List Char) : List Char → List Char
  | [] => done.reverse
  | '\r' :: '\n' :: rest => unifiedOnto ('\n' :: done) rest
  | '\r' :: rest => unifiedOnto ('\n' :: done) rest
  | character :: rest => unifiedOnto (character :: done) rest

/-- The text with every carriage return, and the line feed after one, as a single line feed. -/
def unified (text : List Char) : List Char :=
  unifiedOnto [] text

end Text

/-- A text without the line-end characters that it ends in. -/
def trimLineEnd (text : String) : String :=
  String.ofList (Text.trimLineEnd text.toList)

/-- A text with its line ends unified to line feeds. -/
def unifyLineEnds (text : String) : String :=
  String.ofList (Text.unified text.toList)

end Dialog
