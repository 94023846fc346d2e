/-!
# Commands

What is asked for on a command line. Switches and arguments may stand in any order after the name of
the command, two dashes end the switches, and of a switch given twice the last one counts.
-/

namespace PeFacts

/-- What is wrong with a command line. -/
inductive UsageFault
  | unknownSwitch (word : String)
  | missingValue (word : String)
  | unexpectedValue (word : String)
  | missingCommand
  | unknownCommand (word : String)
  | missingArgument
  | unexpectedArgument (word : String)
  /-- What should be scanned is no file. -/
  | notAFile (path : String)
  deriving Repr, DecidableEq

/-- The wording of a fault. -/
def UsageFault.message : UsageFault → String
  | unknownSwitch word => "No such option: " ++ word
  | missingValue word => "Option " ++ word ++ " requires an argument."
  | unexpectedValue word => "Option " ++ word ++ " does not take a value."
  | missingCommand => "Missing command."
  | unknownCommand word => "No such command: " ++ word
  | missingArgument => "Missing argument."
  | unexpectedArgument word => "Got unexpected extra argument: " ++ word
  | notAFile path => "Not a file: " ++ path

/-- A switch of the command line. -/
inductive Switch
  | version
  | help
  | config
  | memory
  | json
  | out
  | verbose
  deriving Repr, DecidableEq

namespace Switch

/-- The word for a switch, after two dashes. -/
def name : Switch → String
  | version => "version"
  | help => "help"
  | config => "config"
  | memory => "memory"
  | json => "json"
  | out => "out"
  | verbose => "verbose"

/-- The letter for a switch, after one dash. -/
def letter? : Switch → Option Char
  | verbose => some 'v'
  | _ => none

/-- The switch is followed by a value. -/
def takesValue : Switch → Bool
  | config => true
  | out => true
  | _ => false

end Switch

/-- Switches with their values, empty for those that take none, and arguments. -/
structure Words where
  switches : List (Switch × String) := []
  arguments : List String := []
  deriving Repr, DecidableEq

namespace Words

/-- The words with a switch in front. -/
def withSwitch (s : Switch) (value : String) (w : Words) : Words :=
  { w with switches := (s, value) :: w.switches }

/-- The words with an argument in front. -/
def withArgument (word : String) (w : Words) : Words :=
  { w with arguments := word :: w.arguments }

/-- The switch is given. -/
def has (w : Words) (s : Switch) : Bool := w.switches.any (·.1 == s)

/-- The value of a switch. -/
def value? (w : Words) (s : Switch) : Option String :=
  (w.switches.reverse.find? (·.1 == s)).map (·.2)

/-- A word before and after its first equals sign. -/
def splitValue (word : List Char) : List Char × Option (List Char) :=
  match word.span (· != '=') with
  | (name, _ :: value) => (name, some value)
  | (name, []) => (name, none)

/-- Reads the letters after one dash. -/
def letters (known : List Switch) (rest : Words) : List Char → Except UsageFault Words
  | [] => .ok rest
  | c :: more =>
    match known.find? (·.letter? == some c) with
    | some s => (letters known rest more).map (withSwitch s "")
    | none => .error (.unknownSwitch (String.ofList ['-', c]))

/-- Reads words among which these switches are known. Unless `mixed`, the first argument ends the
switches. -/
def read (known : List Switch) (mixed : Bool) : List String → Except UsageFault Words
  | [] => .ok {}
  | word :: rest =>
    match word.toList with
    | ['-', '-'] => .ok { arguments := rest }
    | '-' :: '-' :: body =>
      let (name, given?) := splitValue body
      match known.find? (·.name == String.ofList name) with
      | none => .error (.unknownSwitch word)
      | some s =>
        match s.takesValue, given? with
        | false, some _ => .error (.unexpectedValue word)
        | false, none => (read known mixed rest).map (withSwitch s "")
        | true, some given => (read known mixed rest).map (withSwitch s (String.ofList given))
        | true, none =>
          match rest with
          | [] => .error (.missingValue word)
          | next :: after => (read known mixed after).map (withSwitch s next)
    | '-' :: c :: body => do letters known (← read known mixed rest) (c :: body)
    | _ =>
      if mixed then (read known mixed rest).map (withArgument word)
      else .ok { arguments := word :: rest }

end Words

/-- How a file is to be inspected. -/
structure Inspection where
  path : String
  config? : Option String := none
  /-- The file is the memory of a process. -/
  memory : Bool := false
  /-- The report is printed as JSON. -/
  json : Bool := false
  /-- The report is also written to this file. -/
  out? : Option String := none
  verbose : Bool := false
  deriving Repr, DecidableEq

/-- What is asked for. -/
inductive Command
  | version
  | help
  | inspect (i : Inspection)
  | imphash (paths : List String) (config? : Option String)
  deriving Repr, DecidableEq

namespace Command

/-- Help, if it is asked for, or else what `otherwise` reads from the words. -/
def orHelp (w : Words) (otherwise : Except UsageFault Command) : Except UsageFault Command :=
  if w.has .help then .ok .help else otherwise

/-- Reads what follows the word for inspecting. -/
def readInspection (words : List String) : Except UsageFault Command := do
  let w ← Words.read [.config, .memory, .json, .out, .verbose, .help] true words
  orHelp w <|
    match w.arguments with
    | [] => .error .missingArgument
    | [path] =>
      .ok (.inspect {
        path
        config? := w.value? .config
        memory := w.has .memory
        json := w.has .json
        out? := w.value? .out
        verbose := w.has .verbose })
    | _ :: extra :: _ => .error (.unexpectedArgument extra)

/-- Reads what follows the word for import hashes. -/
def readImphash (words : List String) : Except UsageFault Command := do
  let w ← Words.read [.config, .help] true words
  orHelp w <|
    if w.arguments.isEmpty then .error .missingArgument
    else .ok (.imphash w.arguments (w.value? .config))

/-- What the words ask about the program itself; the first such question counts. -/
def aboutProgram? (w : Words) : Option Command :=
  match w.switches with
  | (.version, _) :: _ => some .version
  | _ :: _ => some .help
  | [] => none

/-- Reads a command line. What is asked about the program itself comes before any command, and also
stands for one after two dashes. -/
def read (words : List String) : Except UsageFault Command := do
  let w ← Words.read [.version, .help] false words
  match aboutProgram? w, w.arguments with
  | some command, _ => return command
  | none, [] => throw .missingCommand
  | none, name :: rest =>
    if name == "inspect" then readInspection rest
    else if name == "imphash" then readImphash rest
    else
      match aboutProgram? (← Words.read [.version, .help] false (name :: rest)) with
      | some command => return command
      | none => throw (.unknownCommand name)

end Command

end PeFacts
