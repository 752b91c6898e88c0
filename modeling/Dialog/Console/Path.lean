import Dialog.Text.Quoted

namespace Dialog.Console

/-!
# Paths and files

A path is a sequence of names, from the root when it begins with a slash. Empty
names and single points say nothing and are dropped; two points go up and are
kept. What stands at a path is up to the machine that the program runs on: any
path may lead to bytes, or to a reason why there are none to read.
-/

/-- A path without names that say nothing. -/
structure Path where
  root : String
  names : List String
  deriving Repr, DecidableEq

namespace Path

/-- The root that a path begins at; exactly two slashes are kept as they are. -/
def rootOf (text : List Char) : String :=
  match (text.takeWhile (· = '/')).length with
  | 0 => ""
  | 2 => "//"
  | _ => "/"

/-- The path that a text denotes. -/
def ofString (text : String) : Path :=
  let names := (text.toList.splitOn '/').map String.ofList
  { root := rootOf text.toList
    names := names.filter fun name => name ≠ "" && name ≠ "." }

/-- How a path is written. -/
def text (path : Path) : String :=
  if path.root = "" && path.names.isEmpty then "."
  else path.root ++ String.intercalate "/" path.names

/-- Whether a path holds the null character, which ends a path for the operating system. -/
def hasNull (path : Path) : Bool :=
  path.text.contains '\x00'

end Path

/--
Why a file cannot be read: the number and the reason that the operating system gives,
and whether the file was open already when reading it broke off.
-/
structure ReadFault where
  number : UInt32
  reason : String
  opened : Bool
  deriving Repr, DecidableEq

/-- The wording of a fault at a path, which is named unless the file was open already. -/
def ReadFault.message (path : Path) (fault : ReadFault) : String :=
  let told := s!"[Errno {fault.number}] {fault.reason}"
  if fault.opened then told else s!"{told}: {quoted path.text}"

/-- The fault of a path where there is nothing. -/
def ReadFault.missing : ReadFault :=
  ⟨2, "No such file or directory", false⟩

/-- The files that can be looked up: the bytes at each path, or why they cannot be read. -/
abbrev Files : Type :=
  Path → Except ReadFault ByteArray

end Dialog.Console
