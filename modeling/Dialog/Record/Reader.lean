import Dialog.Record
import Dialog.Text.Numeral

namespace Dialog.Record

/-!
# Reading records

A script's text is read line by line. `Progress` says which lines of the
current record have been read, and so what the next line may be: `expected`
lists it, `advance` takes one line. A tag line ends a record that may end
there; any other line plays the one part that is due. Blank lines are skipped
wherever they stand.

Reading stops at the first line that may not stand where it does, or at the end
of the text when the current record lacks a line. `Fault` names the line
and all that could have stood there.
-/

/-- What a line may be asked to be, in the order in which a message lists it. -/
inductive Expectation where
  | tag
  | text
  | integer
  | option
  deriving Repr, DecidableEq

/-- The wording of an expectation. -/
def Expectation.description : Expectation → String
  | .tag => "a record tag (1, 2 or 3)"
  | .text => "a text line"
  | .integer => "an integer line"
  | .option => "an option line '<text>:<destination>'"

/-- Where a text stops being a script: the line, and what could have stood there. -/
structure Fault where
  line : Nat
  expected : List Expectation
  deriving Repr, DecidableEq

/-- The column of every fault: a line is refused as a whole. -/
def Fault.column (_ : Fault) : Nat := 1

/-- The wording of a fault. -/
def Fault.message (fault : Fault) : String :=
  let alternatives := String.intercalate " or " (fault.expected.map Expectation.description)
  s!"line {fault.line}, col {fault.column}: expected {alternatives}"

/-- Whether a content is an option: text without a colon, a colon, and a numeral. -/
def isOption (content : List Char) : Bool :=
  match content.dropWhile (· ≠ ':') with
  | [] => false
  | _ :: destination => Numeral.isNumeral destination

/-- The lines of the current record read so far; repeated lines stand last first. -/
inductive Progress where
  | between
  | awaitSuccess (tag : Token)
  | awaitFail (tag success : Token)
  | awaitName (tag success fail : Token)
  | inPrompts (tag success fail name : Token) (prompts : List Token)
  | awaitChoiceName (tag : Token)
  | awaitChoiceQuestion (tag name : Token)
  | awaitOption (tag name asked : Token)
  | inOptions (tag name asked : Token) (options : List Token)
  | awaitMessage (tag : Token)
  deriving Repr, DecidableEq

namespace Progress

/-- What the next line may be. -/
def expected : Progress → List Expectation
  | .between => [.tag]
  | .awaitSuccess .. => [.integer]
  | .awaitFail .. => [.integer]
  | .awaitName .. => [.text]
  | .inPrompts .. => [.tag, .text]
  | .awaitChoiceName .. => [.text]
  | .awaitChoiceQuestion .. => [.text]
  | .awaitOption .. => [.option]
  | .inOptions .. => [.tag, .option]
  | .awaitMessage .. => [.text]

/-- A record that a tag line opens. -/
def opening (kind : Node.Kind) (token : Token) : Progress :=
  match kind with
  | .question => .awaitSuccess token
  | .branching => .awaitChoiceName token
  | .terminating => .awaitMessage token

/-- The record that may end here, if there is one; `none` when a record lacks a line. -/
def finish : Progress → Option (List Record)
  | .between => some []
  | .inPrompts tag success fail name prompts =>
      some [.question tag success fail name prompts.reverse]
  | .inOptions tag name asked options =>
      some [.branching tag name asked options.reverse]
  | _ => none

/--
Gives a line the one part that is due, with the record that it completes; `none`
when the line cannot play it.
-/
def fill (line : Line) (token : Part → Token) : Progress → Option (List Record × Progress)
  | .between => none
  | .awaitSuccess tag =>
      if Numeral.isNumeral line.content then some ([], .awaitFail tag (token .integer)) else none
  | .awaitFail tag success =>
      if Numeral.isNumeral line.content then some ([], .awaitName tag success (token .integer))
      else none
  | .awaitName tag success fail => some ([], .inPrompts tag success fail (token .text) [])
  | .inPrompts tag success fail name prompts =>
      some ([], .inPrompts tag success fail name (token .text :: prompts))
  | .awaitChoiceName tag => some ([], .awaitChoiceQuestion tag (token .text))
  | .awaitChoiceQuestion tag name => some ([], .awaitOption tag name (token .text))
  | .awaitOption tag name asked =>
      if isOption line.content then some ([], .inOptions tag name asked [token .option]) else none
  | .inOptions tag name asked options =>
      if isOption line.content then
        some ([], .inOptions tag name asked (token .option :: options))
      else none
  | .awaitMessage tag => some ([.terminating tag (token .text)], .between)

/--
Takes one line that is not blank, with the record that it completes. Where a
record may end, a tag line ends it and opens the next.
-/
def advance (progress : Progress) (number : Nat) (line : Line) :
    Option (List Record × Progress) :=
  let token (part : Part) : Token := ⟨part, String.ofList line.characters, number⟩
  match Tag.read? line.content with
  | none => progress.fill line token
  | some kind =>
      match progress.finish with
      | some finished => some (finished, opening kind (token (.tag kind)))
      | none => progress.fill line token

/--
Reads the remaining lines, of which the first has the number `number`. `last` is
the number of the last line that was not blank, where a record that lacks a line
at the end of the text is reported.
-/
def read (last number : Nat) (done : List Record) (progress : Progress) :
    List (List Char) → Except Fault (List Record)
  | [] =>
      match progress.finish with
      | some finished => .ok (done.reverse ++ finished)
      | none => .error ⟨last, progress.expected⟩
  | raw :: rest =>
      match Line.read? raw with
      | none => .error ⟨number, progress.expected⟩
      | some line =>
          if line.isBlank then read last (number + 1) done progress rest
          else
            match progress.advance number line with
            | none => .error ⟨number, progress.expected⟩
            | some (finished, next) => read number (number + 1) (finished.reverse ++ done) next rest

end Progress

/-- The records of a script's text, or the first place where it stops being one. -/
def readAll (text : String) : Except Fault (List Record) :=
  Progress.read 0 1 [] .between (Text.lines text.toList)

end Dialog.Record
