import PeFacts.Calendar
import PeFacts.Command.Run
import Std.Time.DateTime.Timestamp

/-!
# The program

Runs the command line in the file system and with the clock of the machine.
-/

namespace PeFacts.Main

/-- What it means for a file that an action on it failed. -/
def faultOf : IO.Error → FileFault
  | .noFileOrDirectory .. => .missing
  | .alreadyExists .. => .occupied
  | .inappropriateType .. => .notDirectory
  | .invalidArgument .. => .longName
  | _ => .isDirectory

/-- The content of a file. -/
def content (path : String) : IO (Except FileFault Bytes) := do
  try
    return .ok (← IO.FS.readBinFile path).data
  catch e =>
    return .error (faultOf e)

/-- There is a file that can be read. -/
def hasContent (path : String) : IO (Except FileFault Bool) := do
  match ← content path with
  | .ok _ => return .ok true
  | .error .longName => return .error .longName
  | .error _ => return .ok false

/-- The home directory of whoever runs the program; those of others are not known. -/
def homeOf (user : String) : IO (Option String) :=
  if user.isEmpty then IO.getEnv "HOME" else return none

/-- Writes a file, with the directories it stands in. -/
def store (path text : String) : IO (Except FileFault Unit) := do
  try
    let parent := PathName.root path ++ "/".intercalate (PathName.parts path).dropLast
    if !parent.isEmpty then IO.FS.createDirAll parent
    IO.FS.writeFile path text
    return .ok ()
  catch e =>
    return .error (faultOf e)

/-- The full name of a path, or the path itself if nothing is there. -/
def fullName (path : String) : IO String := do
  try
    return toString (← IO.FS.realPath path)
  catch _ =>
    return path

/-- The files and the clock of the machine. -/
def machine : Host IO where
  read := content
  isFile := hasContent
  write := store
  resolve := fullName
  home := homeOf
  now := do
    let time ← Std.Time.Timestamp.now
    return (Moment.ofUnixSeconds time.toSecondsSinceUnixEpoch.val).text

/-- The lines of a printed thing. -/
def linesOf : Printed → List String
  | .line text => [text]
  | .table t => t.title :: "  ".intercalate t.columns :: t.rows.map ("  ".intercalate ·)

end PeFacts.Main

open PeFacts in
/-- Runs the command line and ends with its exit code. -/
def main (words : List String) : IO UInt32 := do
  let o ← Command.runWords Main.machine words
  IO.print o.output
  for line in o.printed.flatMap Main.linesOf do
    IO.println line
  for line in o.errorLines do
    IO.eprintln line
  if let .misused fault := o.ending then
    IO.eprintln fault.message
  return o.ending.exitCode.toUInt32
