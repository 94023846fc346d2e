import PeFacts.Checked.Scalar

/-!
# Reports

A report holds the facts about one file, together with what was scanned, by which tool and under
which settings. Reports are written as plain values and can be read back from them.
-/

namespace PeFacts

/-- The entries of a record. -/
abbrev Entries := List (String × Value)

/-- What identifies the scanned file. Size and digests are those of the whole file, also when only
its beginning was read. -/
structure InputEvidence where
  path : String
  size : Int
  sha256 : String
  md5 : String
  truncated : Bool := false
  deriving Inhabited

/-- The facts about one file. -/
structure Report where
  schemaVersion : String := "1.0"
  /-- When the report was made. -/
  timestamp : String
  tool : Entries := []
  settings : Entries := []
  input : InputEvidence
  mode : String := "file"
  facts : Entries := []
  problems : List Entries := []
  deriving Inhabited

namespace InputEvidence

/-- Reads the evidence of a report. -/
def ofValue : Value → Checked InputEvidence :=
  Checked.model "InputEvidence" fun entries =>
    InputEvidence.mk
      <$> Checked.entry entries "input_path" Checked.text
      <*> Checked.entry entries "file_size" Checked.integer
      <*> Checked.entry entries "sha256" Checked.text
      <*> Checked.entry entries "md5" Checked.text
      <*> Checked.entry entries "truncated" Checked.truth (some false)

/-- The evidence as a record. -/
def toValue (e : InputEvidence) : Value :=
  .record [
    ("input_path", .text e.path),
    ("file_size", .int e.size),
    ("sha256", .text e.sha256),
    ("md5", .text e.md5),
    ("truncated", .bool e.truncated)]

end InputEvidence

namespace Report

/-- Reads a report; one without a time was made `now`. -/
def ofValue (now : String) : Value → Checked Report :=
  Checked.model "Report" fun entries =>
    Report.mk
      <$> Checked.entry entries "schema_version" Checked.text (some "1.0")
      <*> Checked.entry entries "timestamp_utc" Checked.text (some now)
      <*> Checked.entry entries "tool" Checked.record (some [])
      <*> Checked.entry entries "config_snapshot" Checked.record (some [])
      <*> Checked.entry entries "input" InputEvidence.ofValue
      <*> Checked.entry entries "mode" Checked.text (some "file")
      <*> Checked.entry entries "pe" Checked.record (some [])
      <*> Checked.entry entries "errors" (Checked.list Checked.record) (some [])

/-- The report as a record. -/
def toValue (r : Report) : Value :=
  .record [
    ("schema_version", .text r.schemaVersion),
    ("timestamp_utc", .text r.timestamp),
    ("tool", .record r.tool),
    ("config_snapshot", .record r.settings),
    ("input", r.input.toValue),
    ("mode", .text r.mode),
    ("pe", .record r.facts),
    ("errors", .list (r.problems.map .record))]

end Report

end PeFacts
