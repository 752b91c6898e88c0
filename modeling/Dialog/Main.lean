import Dialog.Console

namespace Dialog.Console

/-!
# The program

The outer layer of the console program. It looks up the surroundings, reads the
script's file, and plays a session with the player: before each read the prompt
is written out, so that the player sees what is asked.
-/

/-- Writes output to the two streams. -/
def write (output : Output) : IO Unit := do
  unless output.out.isEmpty do
    let stream ← IO.getStdout
    stream.putStr output.out
    stream.flush
  unless output.err.isEmpty do
    let stream ← IO.getStderr
    stream.putStr output.err
    stream.flush

/-- Writes what is left to write and gives the exit code. -/
def leave (exit : Exit) : IO UInt32 := do
  write exit.output
  return UInt32.ofNat exit.code

/-- Ends the program with a fault that it does not expect. -/
def abandon (crash : Crash) : IO UInt32 := do
  write (.toErr (crash.message ++ "\n"))
  return 1

/-- The number of a fault of the operating system, which may come with its sign turned. -/
def faultNumber (code : UInt32) : UInt32 :=
  if code < 0x80000000 then code else 0 - code

/-- How the operating system words the reason that a number stands for. -/
def reasonOf (number : UInt32) : String :=
  if number = 2 then "No such file or directory"
  else if number = 13 then "Permission denied"
  else if number = 20 then "Not a directory"
  else if number = 21 then "Is a directory"
  else if number = 36 then "File name too long"
  else "Input/output error"

/-- The fault that a code of the operating system stands for, where no file could be opened. -/
def readFaultOfCode (code : UInt32) : ReadFault :=
  let number := faultNumber code
  ⟨number, reasonOf number, false⟩

/-- Why the operating system could not read a file. -/
def readFaultOf (fault : IO.Error) : ReadFault :=
  match fault with
  | .noFileOrDirectory .. => .missing
  | .inappropriateType _ code _ => readFaultOfCode code
  | .invalidArgument _ code _ => readFaultOfCode code
  | .permissionDenied _ code _ => readFaultOfCode code
  | _ => ⟨5, "Input/output error", true⟩

/-- The bytes of the file at a path. -/
def readFile (path : Path) : IO (Except ReadFault ByteArray) := do
  try
    return .ok (← IO.FS.readBinFile path.text)
  catch fault =>
    return .error (readFaultOf fault)

/-- What has still to be written of a step whose prompt the player has seen. -/
def afterPrompt (events : List Event) : List Event :=
  events.filter fun event =>
    match event with
    | .shown _ => false
    | _ => true

/-- Plays a session with the player until it has ended or a step fails. -/
partial def converse (level : Log.Level) (session : Session) : IO (Session × Ending) := do
  if session.halted then return (session, .halted)
  let mut ready := session
  if let some prompt := session.upcoming then
    write (.toOut prompt.render)
    let line ← (← IO.getStdin).getLine
    unless line.isEmpty do
      ready := session.feed [line]
  let stepped := ready.step
  write (display level (afterPrompt stepped.events))
  match stepped.fault with
  | some fault => return (stepped.session, .failed fault)
  | none => converse level stepped.session

/-- Checks or plays the script at a path. -/
def carryOut (task : Task) : IO UInt32 := do
  let contents ← readFile task.path
  if task.check then
    match check task contents with
    | .error crash => abandon crash
    | .ok exit => leave exit
  else
    match enter task contents (.ofList []) with
    | .error crash => write (banner task.path) *> abandon crash
    | .ok (.ended exit) => leave exit
    | .ok (.going (session, opening)) =>
        write opening
        let (session, ending) ← converse task.level session
        write (display task.level (session.closing ending))
        match close ending with
        | .error crash => abandon crash
        | .ok exit => leave exit

end Dialog.Console

/-- Runs the program with the arguments of the command line. -/
def main (arguments : List String) : IO UInt32 := do
  let surroundings : Dialog.Console.Surroundings :=
    { script := ← IO.getEnv "WINNOW_SCRIPT"
      logLevel := ← IO.getEnv "WINNOW_LOG_LEVEL" }
  match Dialog.Console.plan surroundings arguments with
  | .error crash => Dialog.Console.abandon crash
  | .ok (.ended exit) => Dialog.Console.leave exit
  | .ok (.going task) => Dialog.Console.carryOut task
