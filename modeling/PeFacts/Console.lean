import PeFacts.Console.Markup
import PeFacts.Report

/-!
# Reports on the console

A report is printed as tables: a summary, the sections, and then the imports, signatures and version
information if there are any. A report need not be well formed; what is missing is left blank where
that is possible, and a `ConsoleFault` is given otherwise.
-/

namespace PeFacts

/-- Why a report cannot be printed. -/
inductive ConsoleFault
  /-- An entry that must be there is missing. -/
  | missing
  /-- A value that must be a record is none. -/
  | notRecord
  /-- A value is not of the type that is needed. -/
  | wrongType
  /-- A value cannot stand in a table as it is. -/
  | notPrintable
  deriving Repr, DecidableEq

/-- A table of marked-up cells. -/
structure Table where
  title : String
  columns : List String
  rows : List (List String)
  deriving Repr, DecidableEq

/-- One thing printed. -/
inductive Printed
  | line (text : String)
  | table (t : Table)
  deriving Repr, DecidableEq

namespace Console

/-- What gives a result or says why the report cannot be printed. -/
abbrev Print (α : Type) := Except ConsoleFault α

/-- The entries of a value that must be a record. -/
def entries : Value → Print Entries
  | .record entries => .ok entries
  | _ => .error .notRecord

/-- An entry that may be missing. -/
def optional (es : Entries) (name : String) (default : Value := .null) : Value :=
  (Value.lookup? name es).getD default

/-- The text of an entry, empty when it is missing. -/
def shown (es : Entries) (name : String) : String := (optional es name (.text "")).display

/-- An entry that must be there. -/
def required (v : Value) (name : String) : Print Value :=
  match v with
  | .record es => (Value.lookup? name es).elim (.error .missing) .ok
  | _ => .error .wrongType

/-- The parts of a value: items of a list, characters of a text or names of a record. -/
def parts : Value → Print (List Value)
  | .list items => .ok items
  | .text s => .ok (s.toList.map fun c => .text (String.singleton c))
  | .record es => .ok (es.map fun e => .text e.1)
  | _ => .error .wrongType

/-- A value that must be text. -/
def plain : Value → Print String
  | .text s => .ok s
  | _ => .error .wrongType

/-- A value that must be text, to be shown as it is. -/
def literal (v : Value) : Print String := Markup.escape <$> plain v

/-- A value that stands in a table as it is. -/
def cell : Value → Print String
  | .text s => .ok s
  | .null => .ok ""
  | _ => .error .notPrintable

/-- A number in hexadecimal, anything else as it is displayed. -/
def hexText : Value → String
  | .int n => (if n < 0 then "-0x" else "0x") ++ Text.paddedHex 1 n.natAbs
  | .bool b => if b then "0x1" else "0x0"
  | v => v.display

/-- An entry in hexadecimal. -/
def hexShown (es : Entries) (name : String) : String := hexText (optional es name)

/-- The rows that every report has. -/
def inputRows (report : Entries) (input : Entries) : List (List String) := [
  ["input", shown input "input_path"],
  ["size", shown input "file_size"],
  ["sha256", shown input "sha256"],
  ["mode", shown report "mode"]]

/-- What the summary says of the table of tools. -/
def richText (v : Value) : Print String := do
  if !v.isGiven then return "-"
  let key ← hexText <$> required v "key"
  let count := (← parts (← required v "entries")).length
  return s!"key={key} entries={count}"

/-- The rows of the summary of an image. -/
def imageRows (facts : Entries) : Print (List (List String)) := do
  let header ← entries (optional facts "header" (.record []))
  let machine := hexShown header "machine"
  let machineName := (optional facts "machine_name").display
  let subsystem := (optional header "subsystem").display
  let subsystemName := (optional facts "subsystem_name").display
  let pdbPath := optional facts "pdb_path"
  let pdbText ← if pdbPath.isGiven then literal pdbPath else pure ""
  return [
    ["format", shown header "format"],
    ["machine", s!"{machine} ({machineName})"],
    ["subsystem", s!"{subsystem} ({subsystemName})"],
    ["timestamp", shown header "timestamp"],
    ["characteristics", hexShown header "characteristics"],
    ["image_base", hexShown header "image_base"],
    ["entry_point", hexShown facts "entry_point"],
    ["linker_version", shown header "linker_version"],
    ["imphash", shown facts "imphash"],
    ["pdb_path", pdbText],
    ["rich_signature", ← richText (optional facts "rich_signature")]]

/-- The summary. -/
def summary (rows : List (List String)) : Printed :=
  .table ⟨"peprobe: PE summary (static, read-only)", ["Field", "Value"], rows⟩

/-- The row of a section. -/
def sectionRow (s : Value) : Print (List String) := do
  let index ← required s "index"
  let name ← literal (← required s "name")
  let numbers ← ["virtual_address", "virtual_size", "raw_data_offset", "raw_data_size",
    "characteristics"].mapM (required s)
  return [index.display, name] ++ numbers.map hexText

/-- The row of a DLL: its functions by name, then those by ordinal. -/
def importRow (dll : Value) : Print (List String) := do
  let es ← entries dll
  let names ← parts (optional es "functions" (.list []))
  let ordinals ← parts (optional es "ordinals" (.list []))
  let name ← literal (← required dll "dll")
  let names ← names.mapM plain
  let functions := names ++ ordinals.map fun o => "ord" ++ o.display
  return [name, Markup.escape (", ".intercalate functions)]

/-- The row of a signature. -/
def signatureRow (s : Value) : Print (List String) := do
  let kind ← required s "kind"
  let subject ← literal (← required s "subject")
  let issuer ← literal (← required s "issuer")
  let serial ← required s "serial"
  let notBefore ← required s "not_before"
  let notAfter ← required s "not_after"
  return [← cell kind, subject, issuer, ← cell serial, notBefore.display, notAfter.display]

/-- The row of one piece of version information. -/
def versionRow (e : String × Value) : Print (List String) := do
  return [Markup.escape e.1, ← literal e.2]

/-- A table with a row for each part of a value, unless it is not given. -/
def tableOf (title : String) (columns : List String) (row : Value → Print (List String))
    (v : Value) : Print (List Printed) := do
  if !v.isGiven then return []
  return [.table ⟨title, columns, ← (← parts v).mapM row⟩]

/-- The table of sections, which is printed even if it has no row. -/
def sectionTable (v : Value) : Print Printed := do
  let columns := ["#", "name", "virtual_address", "virtual_size", "raw_offset", "raw_size",
    "characteristics"]
  return .table ⟨"Sections", columns, ← (← parts v).mapM sectionRow⟩

/-- The table of version information. -/
def versionTable (v : Value) : Print (List Printed) := do
  if !v.isGiven then return []
  return [.table ⟨"Version info", ["key", "value"], ← (← entries v).mapM versionRow⟩]

/-- How many problems there are. -/
def problemLine (v : Value) : Print (List Printed) := do
  if !v.isGiven then return []
  let count := (← parts v).length
  return [.line s!"[yellow]{count} parse problem(s) recorded[/yellow]"]

/-- Everything that is printed of a report. -/
def render (report : Entries) : Print (List Printed) := do
  let input ← entries (optional report "input" (.record []))
  let facts ← entries (optional report "pe" (.record []))
  if !(optional facts "present").isGiven then
    return [summary (inputRows report input ++ [["pe", "[yellow]not a PE image[/yellow]"]])]
  let first := summary (inputRows report input ++ (← imageRows facts))
  let sections ← sectionTable (optional facts "sections" (.list []))
  let imports ← tableOf "Imports" ["dll", "functions"] importRow (optional facts "imports" (.list []))
  let signatures ← tableOf "Signatures"
    ["kind", "subject", "issuer", "serial", "not_before", "not_after"] signatureRow
    (optional facts "signatures" (.list []))
  let version ← versionTable (optional facts "version_info" (.record []))
  let problems ← problemLine (optional report "errors" (.list []))
  return [first, sections] ++ imports ++ signatures ++ version ++ problems

end Console

end PeFacts
