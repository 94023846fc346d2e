/-!
# Parse limits

How much of each table is read. Any integer may be set, also zero or less; a limit below zero
bounds like zero unless the table says otherwise.
-/

namespace PeFacts

/-- Bounds on what is read from an image. -/
structure Limits where
  maxSections : Int := 96
  maxNameLength : Int := 512
  maxImportDlls : Int := 256
  maxImportFunctions : Int := 4096
  maxExports : Int := 65536
  maxResourceNodes : Int := 4096
  /-- The resource tree has the levels type, name and language. -/
  maxResourceDepth : Int := 3
  maxVersionInfoSize : Int := 2000000
  maxCertificates : Int := 16
  maxSignatureDepth : Int := 4
  /-- How far past the DOS header the Rich marker is looked for. -/
  maxRichSearch : Int := 0x1000
  deriving Repr, DecidableEq, Inhabited

end PeFacts
