import Dialog.Text.Line
import Dialog.Text.Utf8

namespace Dialog

/-!
# Text of files

A file's bytes are strict UTF-8, and its line ends are unified to line feeds. A
byte order mark is a character of the text like any other.
-/

/-- The text that a file's bytes hold. -/
def readTextFile (bytes : ByteArray) : Except Utf8.Fault String :=
  (Utf8.read bytes).map unifyLineEnds

end Dialog
