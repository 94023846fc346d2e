import PeFacts.Checked.Scalar
import PeFacts.Limits

/-!
# Settings

What a user may set. Settings are read from plain values, in which every entry may be missing and
unknown entries are ignored, and they are written back with every entry.
-/

namespace PeFacts

/-- What a user may set. -/
structure Settings where
  schemaVersion : String := "1.0"
  /-- How much of a file is read. -/
  maxFileSize : Int := 200000000
  logLevel : String := "WARNING"
  limits : Limits := {}
  deriving Repr, DecidableEq, Inhabited

/-- Reads limits. -/
def Limits.ofValue : Value → Checked Limits :=
  Checked.model "ParseLimits" fun entries =>
    let limit := fun name default => Checked.entry entries name Checked.integer (some default)
    let usual : Limits := {}
    Limits.mk
      <$> limit "max_sections" usual.maxSections
      <*> limit "max_name_length" usual.maxNameLength
      <*> limit "max_import_dlls" usual.maxImportDlls
      <*> limit "max_import_functions" usual.maxImportFunctions
      <*> limit "max_exports" usual.maxExports
      <*> limit "max_resource_nodes" usual.maxResourceNodes
      <*> limit "max_resource_depth" usual.maxResourceDepth
      <*> limit "max_version_info_size" usual.maxVersionInfoSize
      <*> limit "max_certificates" usual.maxCertificates
      <*> limit "max_signature_depth" usual.maxSignatureDepth
      <*> limit "max_rich_search" usual.maxRichSearch

/-- The limits as a record. -/
def Limits.toValue (l : Limits) : Value :=
  .record [
    ("max_sections", .int l.maxSections),
    ("max_name_length", .int l.maxNameLength),
    ("max_import_dlls", .int l.maxImportDlls),
    ("max_import_functions", .int l.maxImportFunctions),
    ("max_exports", .int l.maxExports),
    ("max_resource_nodes", .int l.maxResourceNodes),
    ("max_resource_depth", .int l.maxResourceDepth),
    ("max_version_info_size", .int l.maxVersionInfoSize),
    ("max_certificates", .int l.maxCertificates),
    ("max_signature_depth", .int l.maxSignatureDepth),
    ("max_rich_search", .int l.maxRichSearch)]

namespace Settings

/-- Reads settings. -/
def ofValue : Value → Checked Settings :=
  Checked.model "AppConfig" fun entries =>
    let usual : Settings := {}
    Settings.mk
      <$> Checked.entry entries "schema_version" Checked.text (some usual.schemaVersion)
      <*> Checked.entry entries "max_file_size_bytes" Checked.integer (some usual.maxFileSize)
      <*> Checked.entry entries "log_level" Checked.text (some usual.logLevel)
      <*> Checked.entry entries "limits" Limits.ofValue (some usual.limits)

/-- The settings as a record. -/
def toValue (s : Settings) : Value :=
  .record [
    ("schema_version", .text s.schemaVersion),
    ("max_file_size_bytes", .int s.maxFileSize),
    ("log_level", .text s.logLevel),
    ("limits", s.limits.toValue)]

end Settings

end PeFacts
