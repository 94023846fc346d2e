import PeFacts.Bytes
import PeFacts.Constants
import PeFacts.Problem

/-!
# Image headers

The DOS header, the COFF header and the optional header, read at their fixed places. The magic of
the optional header alone decides between its two layouts; a machine type that disagrees is
reported. `Header.read` refuses a buffer only for the six reasons of kind `notPe`.
-/

namespace PeFacts

/-- The two layouts of the optional header. -/
inductive HeaderLayout
  | pe32
  | pe32Plus
  deriving Repr, DecidableEq, Inhabited

namespace HeaderLayout

/-- The usual name of the layout. -/
def name : HeaderLayout → String
  | pe32 => "PE32"
  | pe32Plus => "PE32+"

/-- The magic number that selects the layout. -/
def magic : HeaderLayout → Nat
  | pe32 => 0x10B
  | pe32Plus => 0x20B

/-- Where the image base stands in the optional header. -/
def imageBaseOffset : HeaderLayout → Nat
  | pe32 => 0x1C
  | pe32Plus => 0x18

/-- The width of the image base. -/
def imageBaseSize : HeaderLayout → Nat
  | pe32 => 4
  | pe32Plus => 8

/-- Where the number of data directories stands. -/
def directoryCountOffset : HeaderLayout → Nat
  | pe32 => 0x5C
  | pe32Plus => 0x6C

/-- Where the data directories begin; the part before them is always read. -/
def directoriesOffset : HeaderLayout → Nat
  | pe32 => 0x60
  | pe32Plus => 0x70

/-- The width of an import thunk. -/
def thunkSize : HeaderLayout → Nat
  | pe32 => 4
  | pe32Plus => 8

/-- The bit of a thunk that marks an import by ordinal. -/
def ordinalFlag : HeaderLayout → Nat
  | pe32 => 0x80000000
  | pe32Plus => 0x8000000000000000

/-- Programs of this layout use 64-bit addresses. -/
def is64Bit : HeaderLayout → Bool
  | pe32 => false
  | pe32Plus => true

/-- The layout that a magic number selects; an unknown one is read as the narrow layout. -/
def ofMagic (m : Nat) : HeaderLayout := if m = pe32Plus.magic then pe32Plus else pe32

end HeaderLayout

/-- A version as a pair of numbers. -/
structure Version where
  major : Nat
  minor : Nat
  deriving Repr, DecidableEq, Inhabited

/-- The two numbers with a point between. -/
def Version.text (v : Version) : String := s!"{v.major}.{v.minor}"

/-- The place and size of one table of the image. -/
structure DataDirectory where
  address : Nat
  size : Nat
  deriving Repr, DecidableEq, Inhabited

/-- What the headers say. -/
structure Header where
  eLfanew : Nat
  machine : Nat
  numberOfSections : Nat
  timestamp : Nat
  pointerToSymbolTable : Nat
  numberOfSymbols : Nat
  sizeOfOptionalHeader : Nat
  characteristics : Nat
  layout : HeaderLayout
  optionalHeaderOffset : Nat
  magic : Nat
  linkerVersion : Version
  entryPoint : Nat
  imageBase : Nat
  sectionAlignment : Nat
  fileAlignment : Nat
  osVersion : Version
  imageVersion : Version
  subsystemVersion : Version
  sizeOfImage : Nat
  sizeOfHeaders : Nat
  checksum : Nat
  subsystem : Nat
  dllCharacteristics : Nat
  numberOfRvaAndSizes : Nat
  directories : List DataDirectory
  deriving Repr, DecidableEq, Inhabited

namespace Header

/-- The DOS header's size. -/
def dosSize : Nat := 64

/-- Where the DOS header says where the other headers begin. -/
def eLfanewOffset : Nat := 0x3C

/-- The COFF header's size. -/
def coffSize : Nat := 20

/-- Where the checksum stands in the optional header. -/
def checksumFieldOffset : Nat := 0x40

/-- No more data directories than this are read. -/
def maxDirectories : Nat := 16

/-- The letters `MZ`. -/
def dosSignature : Bytes := #[0x4D, 0x5A]

/-- The letters `PE` and two zero bytes. -/
def ntSignature : Bytes := #[0x50, 0x45, 0, 0]

/-- Where the stored checksum stands in the buffer. -/
def checksumOffset (h : Header) : Nat := h.optionalHeaderOffset + checksumFieldOffset

/-- Where the section headers begin. -/
def sectionTableOffset (h : Header) : Nat := h.optionalHeaderOffset + h.sizeOfOptionalHeader

/-- The data directory at `index`, zero when there is none. -/
def directory (h : Header) (index : Nat) : DataDirectory := h.directories.getD index ⟨0, 0⟩

/-- What a layout, its magic and the machine type disagree about. -/
def layoutProblems (magic machine : Nat) : List Problem :=
  if magic ≠ HeaderLayout.pe32.magic ∧ magic ≠ HeaderLayout.pe32Plus.magic then [.badMagic magic]
  else if (HeaderLayout.ofMagic magic).is64Bit then
    if machine = machineI386 then [.wideLayoutOnNarrowMachine machine magic] else []
  else if machines64.contains machine then [.narrowLayoutOnWideMachine machine magic]
  else []

/-- How many data directories are both announced and inside the declared optional header. -/
def directoryCount (data : Bytes) (optional sizeOfOptional : Nat) (layout : HeaderLayout)
    (announced : Nat) : Nat :=
  let first := optional + layout.directoriesOffset
  let stop := min (optional + sizeOfOptional) data.size
  min (min announced maxDirectories) ((stop - first) / 8)

/-- The data directory table: pairs of an address and a size. -/
def directoryTable (data : Bytes) (off count : Nat) : List DataDirectory :=
  (List.range count).map fun i => ⟨data.number (off + 8 * i) 4, data.number (off + 8 * i + 4) 4⟩

/-- Two 16-bit numbers. -/
def versionAt (data : Bytes) (off : Nat) : Version := ⟨data.number off 2, data.number (off + 2) 2⟩

/-- The headers whose COFF header begins at `coff`, in the given layout. -/
def decode (data : Bytes) (eLfanew : Nat) (layout : HeaderLayout) : Header :=
  let coff := eLfanew + 4
  let optional := coff + coffSize
  let sizeOfOptional := data.number (coff + 16) 2
  let announced := data.number (optional + layout.directoryCountOffset) 4
  { eLfanew
    machine := data.number coff 2
    numberOfSections := data.number (coff + 2) 2
    timestamp := data.number (coff + 4) 4
    pointerToSymbolTable := data.number (coff + 8) 4
    numberOfSymbols := data.number (coff + 12) 4
    sizeOfOptionalHeader := sizeOfOptional
    characteristics := data.number (coff + 18) 2
    layout
    optionalHeaderOffset := optional
    magic := data.number optional 2
    linkerVersion := ⟨data.number (optional + 0x02) 1, data.number (optional + 0x03) 1⟩
    entryPoint := data.number (optional + 0x10) 4
    imageBase := data.number (optional + layout.imageBaseOffset) layout.imageBaseSize
    sectionAlignment := data.number (optional + 0x20) 4
    fileAlignment := data.number (optional + 0x24) 4
    osVersion := versionAt data (optional + 0x28)
    imageVersion := versionAt data (optional + 0x2C)
    subsystemVersion := versionAt data (optional + 0x30)
    sizeOfImage := data.number (optional + 0x38) 4
    sizeOfHeaders := data.number (optional + 0x3C) 4
    checksum := data.number (optional + checksumFieldOffset) 4
    subsystem := data.number (optional + 0x44) 2
    dllCharacteristics := data.number (optional + 0x46) 2
    numberOfRvaAndSizes := announced
    directories := directoryTable data (optional + layout.directoriesOffset)
      (directoryCount data optional sizeOfOptional layout announced) }

/-- The problems that accepted headers still have. -/
def problems (data : Bytes) (h : Header) : List Problem :=
  layoutProblems h.magic h.machine ++
    (if data.size < h.optionalHeaderOffset + h.sizeOfOptionalHeader then
      [.optionalSizeExceedsFile h.optionalHeaderOffset h.sizeOfOptionalHeader]
    else [])

/-- The headers of a buffer with their problems, or the reason why it is no image. -/
def read (data : Bytes) : Except Problem (Header × List Problem) := do
  if !data.holds 0 dosSize || !data.matchesAt dosSignature 0 then throw .noDosSignature
  let eLfanew := data.number eLfanewOffset 4
  if !data.holds eLfanew 4 then throw (.newHeaderOutside eLfanew)
  if !data.matchesAt ntSignature eLfanew then throw (.badNtSignature eLfanew)
  let coff := eLfanew + 4
  if !data.holds coff coffSize then throw (.coffTruncated coff)
  let optional := coff + coffSize
  if !data.holds optional 2 then throw (.optionalMissing optional)
  let layout := HeaderLayout.ofMagic (data.number optional 2)
  if !data.holds optional layout.directoriesOffset then
    throw (.optionalTruncated optional layout.name)
  let header := decode data eLfanew layout
  return (header, header.problems data)

/-- The six ways in which a buffer can be no image, in the order in which they are looked for. -/
theorem read_eq (data : Bytes) :
    read data =
      if !data.holds 0 dosSize || !data.matchesAt dosSignature 0 then .error .noDosSignature
      else
        let eLfanew := data.number eLfanewOffset 4
        let optional := eLfanew + 4 + coffSize
        let layout := HeaderLayout.ofMagic (data.number optional 2)
        if !data.holds eLfanew 4 then .error (.newHeaderOutside eLfanew)
        else if !data.matchesAt ntSignature eLfanew then .error (.badNtSignature eLfanew)
        else if !data.holds (eLfanew + 4) coffSize then .error (.coffTruncated (eLfanew + 4))
        else if !data.holds optional 2 then .error (.optionalMissing optional)
        else if !data.holds optional layout.directoriesOffset then
          .error (.optionalTruncated optional layout.name)
        else .ok (decode data eLfanew layout, (decode data eLfanew layout).problems data) :=
  rfl

/-- The headers as a record. -/
def toValue (h : Header) : Value :=
  .record [
    ("e_lfanew", .nat h.eLfanew),
    ("machine", .nat h.machine),
    ("number_of_sections", .nat h.numberOfSections),
    ("timestamp", .nat h.timestamp),
    ("size_of_optional_header", .nat h.sizeOfOptionalHeader),
    ("characteristics", .nat h.characteristics),
    ("magic", .nat h.magic),
    ("format", .text h.layout.name),
    ("linker_version", .text h.linkerVersion.text),
    ("address_of_entry_point", .nat h.entryPoint),
    ("image_base", .nat h.imageBase),
    ("section_alignment", .nat h.sectionAlignment),
    ("file_alignment", .nat h.fileAlignment),
    ("os_version", .text h.osVersion.text),
    ("image_version", .text h.imageVersion.text),
    ("subsystem_version", .text h.subsystemVersion.text),
    ("size_of_image", .nat h.sizeOfImage),
    ("size_of_headers", .nat h.sizeOfHeaders),
    ("checksum", .nat h.checksum),
    ("subsystem", .nat h.subsystem),
    ("dll_characteristics", .nat h.dllCharacteristics),
    ("number_of_rva_and_sizes", .nat h.numberOfRvaAndSizes),
    ("data_directories", .list (h.directories.zipIdx.map fun (d, i) =>
      .record [("index", .nat i), ("virtual_address", .nat d.address), ("size", .nat d.size)]))]

end Header

end PeFacts
