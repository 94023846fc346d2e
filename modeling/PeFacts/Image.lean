import PeFacts.Checksum
import PeFacts.Debug
import PeFacts.Export
import PeFacts.Imphash
import PeFacts.Resource
import PeFacts.Rich
import PeFacts.Signature.CertificateTable

/-!
# Images

An `Image` is a buffer with its headers and sections, which are read at once. Each data directory
has a reading of its own (`readImports` and so on) that depends on the image alone and comes with
the problems met. A buffer that is no image has no facts: its readings are empty.
-/

namespace PeFacts

/-- Where the buffer was taken from. -/
inductive ScanMode
  /-- A file: addresses are mapped through the sections. -/
  | file
  /-- The memory of a process: addresses are positions. -/
  | processMemory
  deriving Repr, DecidableEq, Inhabited

namespace ScanMode

/-- The word for a mode in reports and settings. -/
def name : ScanMode → String
  | file => "file"
  | processMemory => "process_memory"

/-- The mode that a word stands for. -/
def ofName? (word : String) : Option ScanMode := [file, processMemory].find? fun m => m.name == word

end ScanMode

/-- A buffer with what its headers say. -/
structure Image where
  data : Bytes
  mode : ScanMode
  limits : Limits
  /-- How signature blobs are decoded. -/
  reader : SignatureReader
  /-- The headers, unless the buffer is no image. -/
  header? : Option Header
  sections : SectionTable
  /-- The problems of the headers and of the section table. -/
  problems : List Problem

namespace Image

/-- Reads the headers and sections of a buffer. -/
def read (data : Bytes) (mode : ScanMode := .file) (limits : Limits := {})
    (reader : SignatureReader := .standard) : Image :=
  let table := fun sections =>
    ({ sections, length := data.size, mapped := mode = .processMemory } : SectionTable)
  match Header.read data with
  | .error problem =>
    { data, mode, limits, reader, header? := none, sections := table [], problems := [problem] }
  | .ok (header, headerProblems) =>
    let (sections, sectionProblems) := Section.readAll data header limits.maxSections
    { data, mode, limits, reader
      header? := some header
      sections := table sections
      problems := headerProblems ++ sectionProblems }

section Read

variable (data : Bytes) (mode : ScanMode) (limits : Limits) (reader : SignatureReader)

/-- Whatever the headers say, an image keeps what it is read from. -/
@[simp] theorem read_data : (read data mode limits reader).data = data := by
  unfold read
  cases Header.read data <;> rfl

@[simp] theorem read_mode : (read data mode limits reader).mode = mode := by
  unfold read
  cases Header.read data <;> rfl

@[simp] theorem read_limits : (read data mode limits reader).limits = limits := by
  unfold read
  cases Header.read data <;> rfl

@[simp] theorem read_reader : (read data mode limits reader).reader = reader := by
  unfold read
  cases Header.read data <;> rfl

@[simp] theorem read_sections_length :
    (read data mode limits reader).sections.length = data.size := by
  unfold read
  cases Header.read data <;> rfl

@[simp] theorem read_sections_mapped :
    (read data mode limits reader).sections.mapped = decide (mode = .processMemory) := by
  unfold read
  cases Header.read data <;> rfl

end Read

/-- The buffer is an image. -/
def isPe (i : Image) : Bool := i.header?.isSome

/-- The buffer is the memory of a process. -/
def isMapped (i : Image) : Bool := i.mode = .processMemory

/-- The image is a library. -/
def isDll (i : Image) : Bool := i.header?.any fun h => h.characteristics &&& dllFlag != 0

/-- The image has the layout with 32-bit addresses. -/
def is32Bit (i : Image) : Bool := i.header?.any fun h => !h.layout.is64Bit

/-- The image has the layout with 64-bit addresses. -/
def is64Bit (i : Image) : Bool := i.header?.any fun h => h.layout.is64Bit

/-- The position of an address, which may be below zero. -/
def offset? (i : Image) (rva : Int) : Option Nat := do
  let _ ← i.header?
  i.sections.offsetAt? rva

/-- Where the program starts: a position in a file, an address in memory. -/
def entryPoint? (i : Image) : Option Nat := do
  let h ← i.header?
  if i.isMapped then return h.imageBase + h.entryPoint else i.sections.offset? h.entryPoint

/-- The position and size of what follows the section data of a file, both zero when nothing
does. -/
def overlay? (i : Image) : Option (Nat × Nat) := do
  let _ ← i.header?
  if i.isMapped then failure
  let stop := i.sections.rawEnd
  if stop = 0 ∨ i.data.size ≤ stop then return (0, 0) else return (stop, i.data.size - stop)

/-- The checksum that the image should have. -/
def checksum? (i : Image) : Option Nat :=
  i.header?.map fun h => Checksum.calculate i.data h.checksumOffset

/-- The data directory at `index`. -/
def directory (i : Image) (index : Nat) : DataDirectory :=
  i.header?.elim ⟨0, 0⟩ fun h => h.directory index

/-- The imported functions. -/
def readImports (i : Image) : ImportTable × List Problem :=
  match i.header? with
  | none => ({}, [])
  | some h =>
    let rva := (h.directory importDirectory).address
    if rva = 0 then ({}, []) else ImportTable.read ⟨i.data, h.layout, i.sections, i.limits⟩ rva

/-- The exported functions. -/
def readExports (i : Image) : ExportTable × List Problem :=
  let rva := (i.directory exportDirectory).address
  if rva = 0 then ({}, []) else ExportTable.read i.data i.sections i.limits rva

/-- The resources. -/
def readResources (i : Image) : ResourceIndex × List Problem :=
  let rva := (i.directory resourceDirectory).address
  if rva = 0 then ({}, []) else ResourceIndex.read i.data i.sections i.limits rva

/-- The version information, which stands among the resources. -/
def readVersionInfo (i : Image) (index : ResourceIndex) : List (String × String) × List Problem :=
  if i.isPe then VersionInfo.ofResources i.data index i.limits.maxVersionInfoSize else ([], [])

/-- The signatures. Memory holds none. -/
def readSignatures (i : Image) : Except SignatureFault (List SignatureRecord × List Problem) :=
  let security := i.directory securityDirectory
  if i.isMapped || security.address = 0 || security.size = 0 then .ok ([], [])
  else
    CertificateTable.read i.data security.address security.size i.limits.maxCertificates
      i.limits.maxSignatureDepth i.reader

/-- The table of tools. -/
def readRich (i : Image) : Option RichSignature × List Problem :=
  match i.header? with
  | none => (none, [])
  | some h => Rich.read i.data h.eLfanew i.limits.maxRichSearch

/-- The path of the program database. -/
def readPdbPath (i : Image) : Option String × List Problem :=
  let debug := i.directory debugDirectory
  if debug.address = 0 || debug.size = 0 then (none, [])
  else Debug.pdbPath i.data i.sections debug i.limits.maxNameLength

end Image

end PeFacts
