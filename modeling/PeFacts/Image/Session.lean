import PeFacts.Image.Reading

/-!
# Sessions

A directory is read when it is first asked for, and what was read is remembered. A `Session` holds
what has been read so far, the positions of the addresses looked up, and the problems met, in the
order in which they came up. An `Access` asks for one fact of an image: it may read directories and
it may fail, and what it had read before it failed stays read.
-/

namespace PeFacts

/-- Why a fact could not be given. -/
inductive AccessFault
  /-- An operation was used outside its domain. -/
  | misuse (m : Misuse)
  /-- The signatures could not be read. -/
  | signatures (fault : SignatureFault)
  /-- A header field of a buffer without headers. -/
  | noHeader
  /-- A section that does not exist. -/
  | noSection
  /-- A constant that does not exist. -/
  | noConstant
  deriving Repr, DecidableEq

/-- What is read of an image when it is first asked for. -/
inductive Directory
  | imports | exports | resources | versionInfo | signatures | rich | pdbPath
  deriving Repr, DecidableEq

namespace Directory

/-- What a directory holds. -/
@[reducible] def Content : Directory → Type
  | imports => ImportTable
  | exports => ExportTable
  | resources => ResourceIndex
  | versionInfo => List (String × String)
  | signatures => List SignatureRecord
  | rich => Option RichSignature
  | pdbPath => Option String

/-- The directories, in the order in which all of them are read. -/
def all : List Directory := [imports, exports, resources, versionInfo, signatures, rich, pdbPath]

end Directory

/-- What has been read of an image. -/
structure Session where
  known : (d : Directory) → Option d.Content := fun _ => none
  memo : Memo (Option Nat) := .empty
  problems : List Problem := []

/-- Asks for something in a session. -/
abbrev Access (α : Type) := ExceptT AccessFault (StateM Session) α

namespace Session

/-- A session in which nothing has been read. -/
def start (i : Image) : Session := { problems := i.problems }

/-- The session with what a directory holds and with the problems met in reading it. -/
def keep (s : Session) (d : Directory) (a : d.Content) (problems : List Problem) : Session :=
  { s with
    known := fun e => if same : d = e then some (same ▸ a) else s.known e
    problems := s.problems ++ problems }

/-- What a guarded computation came to. -/
def settle {α : Type} : Except Misuse α → Access α
  | .ok a => return a
  | .error m => throw (.misuse m)

/-- A guarded computation, which shares the positions that are remembered. -/
def guarded {α : Type} (x : Guarded α) : Access α := do
  let s ← get
  let (result, memo) := x.run.run s.memo
  set { s with memo }
  settle result

/-- What is remembered of a directory, or else what is read now: it is then remembered and its
problems are noted. -/
def remember (d : Directory) (reading : Access (d.Content × List Problem)) : Access d.Content := do
  match (← get).known d with
  | some a => return a
  | none =>
    let (a, problems) ← reading
    modify fun s => s.keep d a problems
    return a

end Session

namespace Image

open Session

/-- What a directory holds. The resources are read for the version information. When the signatures
cannot be read, the next access tries again. -/
def content (i : Image) : (d : Directory) → Access d.Content
  | .imports => remember .imports (guarded i.importReading)
  | .exports => remember .exports (guarded i.exportReading)
  | .resources => remember .resources (guarded i.resourceReading)
  | .versionInfo => remember .versionInfo do
    if i.isPe then
      let index ← remember .resources (guarded i.resourceReading)
      guarded (i.versionReading index)
    else return ([], [])
  | .signatures => remember .signatures do
    match i.readSignatures with
    | .ok reading => return reading
    | .error fault => throw (.signatures fault)
  | .rich => remember .rich (guarded i.richReading)
  | .pdbPath => remember .pdbPath (guarded i.pdbPathReading)

/-- The imported functions. -/
def importTable (i : Image) : Access ImportTable := i.content .imports

/-- The exported functions. -/
def exportTable (i : Image) : Access ExportTable := i.content .exports

/-- The resources. -/
def resourceIndex (i : Image) : Access ResourceIndex := i.content .resources

/-- The version information. -/
def versionInfo (i : Image) : Access (List (String × String)) := i.content .versionInfo

/-- The signatures. -/
def signatures (i : Image) : Access (List SignatureRecord) := i.content .signatures

/-- The table of tools. -/
def richSignature (i : Image) : Access (Option RichSignature) := i.content .rich

/-- The path of the program database. -/
def pdbPath (i : Image) : Access (Option String) := i.content .pdbPath

/-- Reads every directory. -/
def analyze (i : Image) : Access Unit := Directory.all.forM fun d => do let _ ← i.content d

/-- The import hash. -/
def importHash (i : Image) : Access String := return Imphash.digest (← i.importTable).dlls

/-- Every fact about the image, as a record. -/
def snapshot (i : Image) : Access Value := do
  match i.header? with
  | none => return .record [("present", .bool false), ("mode", .text i.mode.name)]
  | some h =>
    i.analyze
    return .record [
      ("present", .bool true),
      ("mode", .text i.mode.name),
      ("header", h.toValue),
      ("machine_name", .option .text (machineName? h.machine)),
      ("subsystem_name", .option .text (subsystemName? h.subsystem)),
      ("entry_point", .option .nat (← guarded i.entryPointReading)),
      ("is_dll", .bool i.isDll),
      ("is_64bit", .bool i.is64Bit),
      ("sections", .list (i.sections.sections.map Section.toValue)),
      ("imports", .list ((← i.importTable).dlls.map ImportedDll.toValue)),
      ("imphash", .text (← i.importHash)),
      ("exports", (← i.exportTable).toValue),
      ("resources", .list ((← i.resourceIndex).entries.map ResourceEntry.toValue)),
      ("version_info", .record ((← i.versionInfo).map fun (key, value) => (key, .text value))),
      ("signatures", .list ((← i.signatures).map SignatureRecord.toValue)),
      ("rich_signature", .option RichSignature.toValue (← i.richSignature)),
      ("pdb_path", .option .text (← i.pdbPath)),
      ("overlay", .option (fun (offset, size) =>
        .record [("offset", .nat offset), ("size", .nat size)]) i.overlay?),
      ("checksum", .nat h.checksum),
      ("calculated_checksum", .option .nat (← guarded i.checksumReading))]

end Image

end PeFacts
