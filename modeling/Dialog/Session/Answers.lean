namespace Dialog

/-!
# Answers

A session reads its answers from a queue of lines. A queue that has run dry is
closed, but may be fed again. A player who breaks off does so at a read, after a
number of reads that went through.
-/

/--
The lines not yet read, how many were read, and how many reads go through before an
interrupt.
-/
structure Answers where
  unread : List String
  consumed : Nat
  interruptIn : Option Nat
  deriving Repr, DecidableEq

/-- What one read gives. -/
inductive Reading where
  | line (text : String)
  | closed
  | interrupted
  deriving Repr, DecidableEq

namespace Answers

/-- Lines to be read with no interrupt. -/
def ofList (lines : List String) : Answers :=
  { unread := lines, consumed := 0, interruptIn := none }

/-- Appends lines. -/
def feed (answers : Answers) (lines : List String) : Answers :=
  { answers with unread := answers.unread ++ lines }

/-- Whether every line has been read. -/
def exhausted (answers : Answers) : Bool :=
  answers.unread.isEmpty

/-- Reads one line. -/
def read (answers : Answers) : Reading × Answers :=
  if answers.interruptIn = some 0 then (.interrupted, answers)
  else
    let left := answers.interruptIn.map (· - 1)
    match answers.unread with
    | [] => (.closed, { answers with interruptIn := left })
    | line :: rest =>
        (.line line, { unread := rest, consumed := answers.consumed + 1, interruptIn := left })

end Answers

end Dialog
