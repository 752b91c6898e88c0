import Dialog.Text.Digit
import Dialog.Text.Quoted

namespace Dialog.Console

/-!
# Arguments of the command line

The command line takes the path of a script and some switches. A switch may be
cut short as long as it stays unambiguous, takes a value after an equals sign or
as the next argument, and stands anywhere. After two dashes alone every argument
is a path. Only the first path counts; arguments that are left over, and what
looks like a switch but is none, are refused together at the end. An argument
that could stand for several switches is refused before all else, and asking for
the version or for help is answered at once.
-/

/-- The switches of the command line. -/
inductive Switch where
  | help
  | check
  | trace
  | logLevel
  | version
  deriving Repr, DecidableEq

namespace Switch

/-- All switches, in the order in which they are listed. -/
def all : List Switch :=
  [.help, .check, .trace, .logLevel, .version]

/-- How a switch is written. -/
def text : Switch → String
  | .help => "--help"
  | .check => "--check"
  | .trace => "--trace"
  | .logLevel => "--log-level"
  | .version => "--version"

/-- How a message names a switch. -/
def title : Switch → String
  | .help => "-h/--help"
  | switch => switch.text

end Switch

/-- Why a command line is refused. -/
inductive UsageFault where
  | unrecognized (arguments : List String)
  | missingValue (switch : Switch)
  | unexpectedValue (switch : Switch) (value : String)
  | ambiguous (argument : String)
  deriving Repr, DecidableEq

/-- The wording of a refusal. -/
def UsageFault.message : UsageFault → String
  | .unrecognized arguments => "unrecognized arguments: " ++ String.intercalate " " arguments
  | .missingValue switch => s!"argument {switch.title}: expected one argument"
  | .unexpectedValue switch value =>
      s!"argument {switch.title}: ignored explicit argument {quoted value}"
  | .ambiguous argument =>
      let matching := String.intercalate ", " (Switch.all.map Switch.text)
      s!"ambiguous option: {argument} could match {matching}"

/-- What the command line asks for; the log level may be taken away by two dashes in its place. -/
structure Settings where
  script : String
  logLevel : Option String
  check : Bool
  trace : Bool
  deriving Repr, DecidableEq

/-- What the command line comes to. -/
inductive Asked where
  | settings (settings : Settings)
  | version
  | help
  | refused (fault : UsageFault)
  deriving Repr, DecidableEq

/-- What one argument is taken for. -/
inductive Argument where
  | path (text : String)
  | switch (switch : Switch) (value : Option String)
  | ambiguous (text : String)
  | unknown (text : String)
  deriving Repr, DecidableEq

/-- A text without the line feed that it ends in. -/
def withoutLineFeed (text : List Char) : List Char :=
  if text.getLast? = some '\n' then text.dropLast else text

/--
Whether a text is a dash and a decimal number, in digits of any scripts, which is
taken for a path. A line feed may end it.
-/
def isNegativeNumber (text : List Char) : Bool :=
  match withoutLineFeed text with
  | '-' :: number =>
      let (whole, fraction) := number.span isDecimalDigit
      match fraction with
      | [] => !whole.isEmpty
      | '.' :: digits => !digits.isEmpty && digits.all isDecimalDigit
      | _ => false
  | _ => false

/-- The part of an argument before its first equals sign, and the part after it if there is one. -/
def splitValue (text : List Char) : List Char × Option String :=
  let (name, rest) := text.span (· ≠ '=')
  match rest with
  | [] => (name, none)
  | _ :: value => (name, some (String.ofList value))

/-- A text that is no switch: a path if it cannot be meant as one. -/
def otherwise (text : String) : Argument :=
  let characters := text.toList
  if isNegativeNumber characters || characters.contains ' ' then .path text else .unknown text

/-- What an argument that begins with two dashes is taken for. -/
def classifyLong (text : String) : Argument :=
  let (name, value) := splitValue text.toList
  let exact (switch : Switch) : Bool := switch.text.toList == name
  let begun (switch : Switch) : Bool := name.isPrefixOf switch.text.toList
  match Switch.all.filter exact, Switch.all.filter begun with
  | switch :: _, _ => .switch switch value
  | [], [switch] => .switch switch value
  | [], [] => otherwise text
  | [], _ => .ambiguous text

/--
The value that stands behind a short help switch, after an equals sign or at
once; a run of further short help switches is no part of it.
-/
def helpValue (rest : List Char) : Option String :=
  match rest with
  | [] => none
  | ['='] => some ""
  | _ =>
      let value := if rest.head? = some '=' then rest.tail else rest
      let left := value.dropWhile (· = 'h')
      if left.isEmpty then none else some (String.ofList left)

/-- What an argument is taken for. -/
def classify (text : String) : Argument :=
  match text.toList with
  | '-' :: '-' :: _ => classifyLong text
  | '-' :: 'h' :: rest => .switch .help (helpValue rest)
  | '-' :: _ :: _ => otherwise text
  | _ => .path text

/-- What reading the command line has come to so far; what is left over stands last first. -/
structure Progress where
  script : Option String
  logLevel : Option String
  check : Bool
  trace : Bool
  leftOver : List String
  deriving Repr, DecidableEq

namespace Progress

/-- An argument that is left over. -/
def leave (progress : Progress) (argument : String) : Progress :=
  { progress with leftOver := argument :: progress.leftOver }

/-- Takes a log level, which two dashes are not. -/
def takeLevel (progress : Progress) (level : String) : Progress :=
  { progress with logLevel := if level = "--" then none else some level }

/-- Takes paths: the first is the script unless there is one, and all others are left over. -/
def takePaths (progress : Progress) (paths : List String) : Progress :=
  match progress.script, paths with
  | none, path :: rest => rest.foldl leave { progress with script := some path }
  | _, paths => paths.foldl leave progress

/-- The end of the command line. -/
def finish (progress : Progress) (defaultScript : String) : Asked :=
  if progress.leftOver.isEmpty then
    .settings
      { script := progress.script.getD defaultScript
        logLevel := progress.logLevel
        check := progress.check
        trace := progress.trace }
  else .refused (.unrecognized progress.leftOver.reverse)

/--
Reads arguments. Two dashes right after the path of the script belong to it; once
there is a script, two dashes elsewhere are left over with what follows them.
-/
def read (defaultScript : String) (progress : Progress) : List String → Asked
  | [] => progress.finish defaultScript
  | "--" :: rest =>
      match progress.script with
      | none => (progress.takePaths rest).finish defaultScript
      | some _ => (progress.takePaths ("--" :: rest)).finish defaultScript
  | argument :: rest =>
      match classify argument with
      | .path path =>
          match progress.script, rest with
          | none, "--" :: paths =>
              ((progress.takePaths [path]).takePaths paths).finish defaultScript
          | _, _ => read defaultScript (progress.takePaths [path]) rest
      | .unknown text => read defaultScript (progress.leave text) rest
      | .ambiguous text => .refused (.ambiguous text)
      | .switch .help none => .help
      | .switch .version none => .version
      | .switch .check none => read defaultScript { progress with check := true } rest
      | .switch .trace none => read defaultScript { progress with trace := true } rest
      | .switch .logLevel (some value) =>
          read defaultScript (progress.takeLevel value) rest
      | .switch .logLevel none =>
          match rest with
          | [] => .refused (.missingValue .logLevel)
          | value :: rest =>
              if value = "--" then .refused (.missingValue .logLevel)
              else
                match classify value with
                | .path value => read defaultScript (progress.takeLevel value) rest
                | _ => .refused (.missingValue .logLevel)
      | .switch switch (some value) => .refused (.unexpectedValue switch value)

end Progress

/-- The first argument that could stand for several switches. -/
def firstAmbiguous (arguments : List String) : Option String :=
  (arguments.takeWhile (· ≠ "--")).find? fun argument =>
    classify argument = .ambiguous argument

/-- Reads a command line, given the script and the log level to take when it names none. -/
def readArguments (defaultScript defaultLevel : String) (arguments : List String) : Asked :=
  match firstAmbiguous arguments with
  | some argument => .refused (.ambiguous argument)
  | none =>
      let progress : Progress :=
        { script := none
          logLevel := some defaultLevel
          check := false
          trace := false
          leftOver := [] }
      progress.read defaultScript arguments

end Dialog.Console
