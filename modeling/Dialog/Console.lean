import Dialog.Console.Arguments
import Dialog.Console.Path
import Dialog.Session.Log
import Dialog.Session.Run
import Dialog.Text.File
import Dialog.Text.Uppercase

namespace Dialog.Console

/-!
# The console program

The console program checks a script or plays it. What it asks for is found from
its arguments and surroundings (`plan`), the script is read and taken up
(`check`, `enter`), and what a session does is written to two streams: prompts
to the one, reports and the log to the other (`display`). How the session ended
decides the exit code (`close`). `run` is the whole program over the files of a
machine and a text of answers.

Faults that the program does not expect end it without an exit code.
-/

/-- What is written to the two streams of a console. -/
structure Output where
  out : String
  err : String
  deriving Repr, DecidableEq

namespace Output

/-- Nothing is written. -/
def none : Output :=
  ⟨"", ""⟩

/-- Something is written to the first stream. -/
def toOut (text : String) : Output :=
  ⟨text, ""⟩

/-- Something is written to the second stream. -/
def toErr (text : String) : Output :=
  ⟨"", text⟩

/-- One output and then another. -/
def append (first second : Output) : Output :=
  ⟨first.out ++ second.out, first.err ++ second.err⟩

instance : Append Output :=
  ⟨append⟩

end Output

/-- What the program does not expect, and ends it. -/
inductive Crash where
  | noLevel
  | unknownLevel (name : String)
  | nullByte
  | notText (fault : Utf8.Fault)
  | numeral (fault : Numeral.Fault)
  | endless
  deriving Repr, DecidableEq

namespace Crash

/-- The wording of what ended the program. -/
def message : Crash → String
  | .noLevel => "'list' object has no attribute 'upper'"
  | .unknownLevel name => s!"Level '{name}' does not exist"
  | .nullByte => "embedded null byte"
  | .notText fault => fault.message
  | .numeral fault => fault.message
  | .endless => "the session never ends"

end Crash

/-- What was written by a program that ended, and its exit code. -/
structure Exit where
  code : Nat
  output : Output
  deriving Repr, DecidableEq

/-- A program that is still going on with a value, or has ended. -/
inductive Stage (α : Type) where
  | going (value : α)
  | ended (exit : Exit)
  deriving Repr, DecidableEq

/-- The name and number of the program. -/
def version : String :=
  "winnow 0.1.0"

/-- How the program is called. -/
def usage : String :=
  "usage: winnow [-h] [--check] [--trace] [--log-level LOG_LEVEL] [--version]\n" ++
    "              [script]\n"

/-- What the program says about its use. -/
def help : String :=
  usage ++ "\n" ++
    "winnow - run a branching dialog script\n\n" ++
    "positional arguments:\n" ++
    "  script                Path of the script file (default: $WINNOW_SCRIPT or\n" ++
    "                        input.txt)\n\n" ++
    "options:\n" ++
    "  -h, --help            show this help message and exit\n" ++
    "  --check               Parse and analyze the script, then exit\n" ++
    "  --trace               Print OpenTelemetry spans to stderr\n" ++
    "  --log-level LOG_LEVEL\n" ++
    "                        Log level for diagnostics on stderr (default: WARNING)\n" ++
    "  --version             show program's version number and exit\n"

/-- What the program's surroundings set. -/
structure Surroundings where
  script : Option String
  logLevel : Option String
  deriving Repr, DecidableEq

/-- What the program is to do: check or play the script at a path, with a least level to log. -/
structure Task where
  path : Path
  check : Bool
  level : Log.Level
  deriving Repr, DecidableEq

/-- What the arguments and the surroundings ask for. -/
def plan (surroundings : Surroundings) (arguments : List String) : Except Crash (Stage Task) :=
  let script := surroundings.script.getD "input.txt"
  let level := surroundings.logLevel.getD "WARNING"
  match readArguments script level arguments with
  | .version => .ok (.ended ⟨0, .toOut (version ++ "\n")⟩)
  | .help => .ok (.ended ⟨0, .toOut help⟩)
  | .refused fault => .ok (.ended ⟨2, .toErr (usage ++ s!"winnow: error: {fault.message}\n")⟩)
  | .settings settings =>
      match settings.logLevel.map uppercase with
      | none => .error .noLevel
      | some name =>
          match Log.Level.named? name with
          | none => .error (.unknownLevel name)
          | some level =>
              let path := Path.ofString settings.script
              if path.hasNull then .error .nullByte
              else .ok (.going { path, check := settings.check, level })

/-- The line of the log that a message is, when it is asked for. -/
def logLine (least : Log.Level) (message : Log.Message) : String :=
  if least.rank ≤ message.level.rank then
    let name := message.level.name
    let padding := String.ofList (List.replicate (8 - name.length) ' ')
    s!"{name}{padding} {message.text}\n"
  else ""

/-- What an event writes to the console. -/
def displayEvent (least : Log.Level) (event : Event) : Output :=
  let written := event.written?.getD ""
  let logged := (event.message?.map (logLine least)).getD ""
  let reported := (event.report?.map (· ++ "\n")).getD ""
  ⟨written, logged ++ reported⟩

/-- What events write to the console. -/
def display (least : Log.Level) (events : List Event) : Output :=
  let outputs := events.map (displayEvent least)
  ⟨String.join (outputs.map Output.out), String.join (outputs.map Output.err)⟩

/-- The line that tells of a fault. -/
def errorLine (text : String) : String :=
  s!"[Error] {text}\n"

/-- A fault of taking up a script: one that is expected is told of, another is a crash. -/
def expect (fault : LoadFault) : Except Crash Exit :=
  match fault with
  | .numeral fault => .error (.numeral fault)
  | _ => .ok ⟨1, .toOut (errorLine fault.message)⟩

/--
The script that a text describes, looked over for warnings although it is not taken up.
No text has so many lines that the number of one could not be written in a warning.
-/
def examine (text : String) : Except LoadFault (Script × List Warning) := do
  let script ← Script.read text
  let playable ← script.playable
  return (playable, playable.warnings)

/-- Checks the script at a path, given the bytes there. -/
def check (task : Task) (contents : Except ReadFault ByteArray) : Except Crash Exit :=
  match contents with
  | .error fault => .ok ⟨1, .toOut (errorLine (fault.message task.path))⟩
  | .ok bytes =>
      match readTextFile bytes with
      | .error fault => .error (.notText fault)
      | .ok text =>
          match examine text with
          | .error fault => expect fault
          | .ok (script, warnings) =>
              let summary := script.graph.summary
              let told :=
                s!"{task.path.text}: {summary.nodes} node(s), {summary.reachable} reachable, " ++
                  s!"{warnings.length} warning(s)\n"
              .ok ⟨0, display task.level (warnings.map .warned) ++ .toOut told⟩

/-- What a play begins with. -/
def banner (path : Path) : Output :=
  .toOut (version ++ "\n" ++ s!"Input file: {path.text}\n\n")

/-- Takes up the script at a path, given the bytes there, in a session with the given answers. -/
def enter
    (task : Task)
    (contents : Except ReadFault ByteArray)
    (answers : Answers) :
    Except Crash (Stage (Session × Output)) :=
  let opening := banner task.path
  match contents with
  | .error fault =>
      let told := s!"Could not read script '{task.path.text}': {fault.message task.path}"
      .ok (.ended ⟨1, opening ++ .toOut (errorLine told)⟩)
  | .ok bytes =>
      match readTextFile bytes with
      | .error fault => .error (.notText fault)
      | .ok text =>
          let loaded := (Session.fresh answers).load text
          match loaded.outcome with
          | .error fault =>
              (expect fault).map fun exit => .ended { exit with output := opening ++ exit.output }
          | .ok _ =>
              .ok (.going (loaded.session, opening ++ display task.level loaded.events))

/-- The exit code of a session by how it ended, and what is written last. -/
def close : Ending → Except Crash Exit
  | .halted => .ok ⟨0, .none⟩
  | .endless => .error .endless
  | .failed fault =>
      match fault with
      | .inputClosed _ => .ok ⟨1, .toErr "\nInput closed before the dialog finished\n"⟩
      | .interrupted => .ok ⟨130, .toErr "\n"⟩
      | .numeral fault => .error (.numeral fault)
      | fault => .ok ⟨1, .toErr (errorLine fault.message)⟩

/-- The answers that a text holds, one a line. -/
def answersOf (input : String) (interruptIn : Option Nat) : Answers :=
  let lines := (Text.lines (Text.unified input.toList)).map String.ofList
  { unread := lines, consumed := 0, interruptIn }

/-- Plays the script at a path with the given answers. -/
def play
    (task : Task)
    (contents : Except ReadFault ByteArray)
    (answers : Answers) :
    Except Crash Exit :=
  match enter task contents answers with
  | .error crash => .error crash
  | .ok (.ended exit) => .ok exit
  | .ok (.going (session, opening)) =>
      let ran := session.run
      (close ran.ending).map fun exit =>
        { exit with output := opening ++ display task.level ran.events ++ exit.output }

/-- The whole program, over the files of a machine. -/
def run
    (surroundings : Surroundings)
    (files : Files)
    (answers : Answers)
    (arguments : List String) :
    Except Crash Exit :=
  match plan surroundings arguments with
  | .error crash => .error crash
  | .ok (.ended exit) => .ok exit
  | .ok (.going task) =>
      let contents := files task.path
      if task.check then check task contents else play task contents answers

end Dialog.Console
