import PeFacts.Command
import PeFacts.Console
import PeFacts.Logging
import PeFacts.PathName
import PeFacts.Scan
import PeFacts.Settings.File
import PeFacts.Value.Json

/-!
# Running commands

A command needs files and the time, which a `Host` provides, and comes to an `Outcome`: what is
written to the output and to the error output, what is printed on the console, and how it ended.
-/

namespace PeFacts

/-- What a command needs from its surroundings. -/
structure Host (m : Type → Type) where
  /-- The content of a file. -/
  read : String → m (Except FileFault Bytes)
  /-- There is a regular file. -/
  isFile : String → m (Except FileFault Bool)
  /-- Writes a file, with the directories it stands in. -/
  write : String → String → m (Except FileFault Unit)
  /-- The full name of a path. -/
  resolve : String → m String
  /-- The home directory of a user, or without a name of whoever runs the command. -/
  home : String → m (Option String)
  /-- The time for reports. -/
  now : m String

/-- Why a command broke off. -/
inductive CommandFault
  | settings (fault : SettingsFault)
  | scan (fault : ScanFault)
  | file (fault : FileFault)
  | console (fault : ConsoleFault)
  /-- A path begins in the home directory of an unknown user. -/
  | noHome
  deriving Repr, DecidableEq

/-- How a command ended. -/
inductive Ending
  | done
  | misused (fault : UsageFault)
  | failed (fault : CommandFault)
  deriving Repr, DecidableEq

/-- The number with which the program ends. -/
def Ending.exitCode : Ending → Nat
  | .done => 0
  | .misused _ => 2
  | .failed _ => 1

/-- What a command has come to. -/
structure Outcome where
  ending : Ending := .done
  output : String := ""
  errorLines : List String := []
  printed : List Printed := []
  logger : Logger := {}
  deriving Repr, DecidableEq

/-- The report line for a file that cannot be read. -/
def FileFault.report (path : String) (fault : FileFault) : String :=
  let quoted := Text.quoted path
  let reason := match fault with
    | .missing => "FileNotFoundError: [Errno 2] No such file or directory: "
    | .isDirectory => "IsADirectoryError: [Errno 21] Is a directory: "
    | .notDirectory => "NotADirectoryError: [Errno 20] Not a directory: "
    | .occupied => "FileExistsError: [Errno 17] File exists: "
    | .longName => "OSError: [Errno 36] File name too long: "
    | .noName => "ValueError: embedded null byte: "
  "Error reading " ++ path ++ ": " ++ reason ++ quoted

namespace Command

variable {m : Type → Type} [Monad m]

/-- What `act` makes of a path in the form in which it is shown, if files can have such a name. -/
def onPath {α : Type} (path : String) (act : String → m (Except FileFault α)) :
    m (Except FileFault α) :=
  if PathName.isPossible path then act (PathName.normal path) else return .error .noName

/-- A path as it is shown, with the home directory that it begins in. -/
def expand (host : Host m) (path : String) : m (Except CommandFault String) := do
  if !PathName.isPossible path then return .error (.file .noName)
  match PathName.home? path with
  | none => return .ok (PathName.normal path)
  | some (user, rest) =>
    match ← host.home user with
    | none => return .error .noHome
    | some directory => return .ok (PathName.normal ("/".intercalate (directory :: rest)))

/-- Reads the settings at a path, or takes the usual ones if none is given. -/
def settings (host : Host m) (path? : Option String) : m (Except SettingsFault Settings) :=
  match path? with
  | none => return .ok {}
  | some path =>
    if path.isEmpty then return .ok {}
    else return Settings.ofFile (← onPath path host.read)

/-- The outcome of a command that broke off. -/
def failed (fault : CommandFault) (before : Outcome := {}) : Outcome :=
  { before with ending := .failed fault }

/-- What shows a report: its JSON text, or tables. -/
def showReport (i : Inspection) (report : Report) (o : Outcome) : Outcome :=
  if i.json then { o with output := o.output ++ report.toValue.toJson ++ "\n" }
  else
    match Console.render (Scan.entriesOf report.toValue) with
    | .ok printed => { o with printed }
    | .error fault => failed (.console fault) o

/-- Writes a report to a file if that is asked for. -/
def writeReport (host : Host m) (i : Inspection) (report : Report) : m (Except FileFault Unit) :=
  match i.out? with
  | none => return .ok ()
  | some path =>
    if path.isEmpty then return .ok ()
    else onPath path fun path => host.write path report.toValue.toJson

/-- Reports on a file with the given full name. -/
def reportOn (host : Host m) (i : Inspection) (settings : Settings) (path : String) (start : Outcome) :
    m Outcome := do
  match ← host.read path with
  | .error fault => return failed (.file fault) start
  | .ok file =>
    let mode := if i.memory then ScanMode.processMemory else ScanMode.file
    match Scan.report path file (← host.now) mode settings with
    | .error fault => return failed (.scan fault) start
    | .ok report =>
      match ← writeReport host i report with
      | .error fault => return failed (.file fault) start
      | .ok () => return showReport i report start

/-- Inspects a file. -/
def inspectFile (host : Host m) (i : Inspection) : m Outcome := do
  match ← settings host i.config? with
  | .error fault => return failed (.settings fault)
  | .ok settings =>
    let level := if i.verbose then "DEBUG" else settings.logLevel
    let start : Outcome := { logger := ({} : Logger).configure (.name level) }
    match ← expand host i.path with
    | .error fault => return failed fault start
    | .ok path =>
      let path ← host.resolve path
      match ← host.isFile path with
      | .error fault => return failed (.file fault) start
      | .ok false => return { start with ending := .misused (.notAFile path) }
      | .ok true => reportOn host i settings path start

/-- The import hash of the first bytes of a file. -/
def imphashOf (settings : Settings) (file : Bytes) : Except ScanFault String := do
  let (data, _) ← Scan.firstBytes file settings.maxFileSize
  let image ← Scan.imageOf data .file settings.limits
  let (hash, _) ← Scan.firstAccess image image.importHash
  return hash

/-- Writes the import hash of a file on a line, with the path as it was given. A file that cannot be read
is passed over. -/
def imphashFile (host : Host m) (settings : Settings) (o : Outcome) (given : String) :
    m (Except CommandFault Outcome) := do
  match ← expand host given with
  | .error fault => return .error fault
  | .ok path =>
    match ← host.read path with
    | .error fault => return .ok { o with errorLines := o.errorLines ++ [fault.report path] }
    | .ok file =>
      match imphashOf settings file with
      | .error fault => return .error (.scan fault)
      | .ok hash => return .ok { o with output := o.output ++ hash ++ "  " ++ given ++ "\n" }

/-- Writes the import hashes of files. -/
def imphashFiles (host : Host m) (settings : Settings) : List String → Outcome → m Outcome
  | [], o => return o
  | given :: rest, o => do
    match ← imphashFile host settings o given with
    | .error fault => return failed fault o
    | .ok o => imphashFiles host settings rest o

/-- What the program says about its use. -/
def helpText : String :=
  "Usage: peprobe [--version] [--help] COMMAND ...\n\n" ++
  "  inspect PATH [--config FILE] [--memory] [--json] [--out FILE] [--verbose]\n" ++
  "  imphash PATH... [--config FILE]\n"

/-- Runs a command. -/
def run (host : Host m) : Command → m Outcome
  | .version => return { output := "peprobe version: " ++ Scan.toolVersion ++ "\n" }
  | .help => return { output := helpText }
  | .inspect i => inspectFile host i
  | .imphash paths config? => do
    match ← settings host config? with
    | .error fault => return failed (.settings fault)
    | .ok settings =>
      let start : Outcome := { logger := ({} : Logger).configure (.name settings.logLevel) }
      imphashFiles host settings paths start

/-- Runs a command line. -/
def runWords (host : Host m) (words : List String) : m Outcome :=
  match read words with
  | .ok command => run host command
  | .error fault => return { ending := .misused fault }

end Command

end PeFacts
