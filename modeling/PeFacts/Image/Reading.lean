import PeFacts.Guarded.Checksum
import PeFacts.Guarded.Debug
import PeFacts.Guarded.Export
import PeFacts.Guarded.Header
import PeFacts.Guarded.Import
import PeFacts.Guarded.Resource
import PeFacts.Guarded.Rich
import PeFacts.Guarded.VersionInfo
import PeFacts.Image

/-!
# Guarded reading of images

An image is loaded, and each of its directories is read, by guarded computations. `load_eq` and the
`yields` lemmas say that they come to what the headers and the directories say.
-/

namespace PeFacts

open Guarded

namespace Image

/-- Reads the headers and sections of a buffer. -/
def loading (data : Bytes) (mode : ScanMode) (limits : Limits) (reader : SignatureReader) :
    Guarded Image := do
  let table := fun sections =>
    ({ sections, length := data.size, mapped := mode = .processMemory } : SectionTable)
  match ← Guarded.header data with
  | .error problem =>
    return {
      data, mode, limits, reader
      header? := none
      sections := table []
      problems := [problem] }
  | .ok (header, headerProblems) =>
    let (sections, sectionProblems) ← Guarded.sections data header limits.maxSections
    return {
      data, mode, limits, reader
      header? := some header
      sections := table sections
      problems := headerProblems ++ sectionProblems }

/-- The image that a buffer is loaded as. -/
def load (data : Bytes) (mode : ScanMode := .file) (limits : Limits := {})
    (reader : SignatureReader := .standard) : Except Misuse Image :=
  ((loading data mode limits reader).run.run .empty).1

variable (i : Image)

/-- The data directory at `index`. -/
def directoryReading (index : Nat) : Guarded DataDirectory :=
  match i.header? with
  | none => return ⟨0, 0⟩
  | some h =>
    if index < h.directories.length then item h.directories index else return ⟨0, 0⟩

/-- The position of an address, which may be below zero. -/
def offsetReading (rva : Int) : Guarded (Option Nat) :=
  match i.header? with
  | none => return none
  | some _ => locate i.sections (Bytes.position? rva)

/-- Where the program starts: a position in a file, an address in memory. -/
def entryPointReading : Guarded (Option Nat) :=
  match i.header? with
  | none => return none
  | some h =>
    if i.isMapped then return some (h.imageBase + h.entryPoint)
    else locate i.sections (some h.entryPoint)

/-- The checksum that the image should have. -/
def checksumReading : Guarded (Option Nat) :=
  match i.header? with
  | none => return none
  | some h => return some (← calculateChecksum i.data h.checksumOffset)

/-- The imported functions. -/
def importReading : Guarded (ImportTable × List Problem) := do
  let rva := (← i.directoryReading importDirectory).address
  if rva = 0 then return ({}, [])
  let h ← given i.header?
  imports ⟨i.data, h.layout, i.sections, i.limits⟩ rva

/-- The exported functions. -/
def exportReading : Guarded (ExportTable × List Problem) := do
  let rva := (← i.directoryReading exportDirectory).address
  if rva = 0 then return ({}, [])
  exports i.data i.sections i.limits rva

/-- The resources. -/
def resourceReading : Guarded (ResourceIndex × List Problem) := do
  let rva := (← i.directoryReading resourceDirectory).address
  if rva = 0 then return ({}, [])
  resources i.data i.sections i.limits rva

/-- The version information, which stands among the resources. -/
def versionReading (index : ResourceIndex) : Guarded (List (String × String) × List Problem) :=
  if i.isPe then Guarded.versionInfo i.data index i.limits.maxVersionInfoSize else return ([], [])

/-- The table of tools. -/
def richReading : Guarded (Option RichSignature × List Problem) :=
  match i.header? with
  | none => return (none, [])
  | some h => rich i.data h.eLfanew i.limits.maxRichSearch

/-- The path of the program database. -/
def pdbPathReading : Guarded (Option String × List Problem) := do
  let debug ← i.directoryReading debugDirectory
  if debug.address = 0 || debug.size = 0 then return (none, [])
  Guarded.pdbPath i.data i.sections debug i.limits.maxNameLength

theorem loading_eq (data : Bytes) (mode : ScanMode) (limits : Limits) (reader : SignatureReader) :
    loading data mode limits reader = pure (read data mode limits reader) := by
  unfold loading read
  rw [header_eq, pure_bind]
  cases Header.read data with
  | error problem => rfl
  | ok found =>
    simp only [sections_eq, pure_bind]

/-- Loading an image leaves the domain of no operation. -/
theorem load_eq (data : Bytes) (mode : ScanMode) (limits : Limits) (reader : SignatureReader) :
    load data mode limits reader = .ok (read data mode limits reader) := by
  rw [load, loading_eq]
  rfl

theorem eq_read_of_load {data : Bytes} {mode : ScanMode} {limits : Limits}
    {reader : SignatureReader} {i : Image} (loaded : load data mode limits reader = .ok i) :
    i = read data mode limits reader := by
  rw [load_eq] at loaded
  exact (Except.ok.inj loaded).symm

theorem directoryReading_eq (index : Nat) : i.directoryReading index = pure (i.directory index) := by
  unfold directoryReading directory
  cases i.header? with
  | none => rfl
  | some h =>
    by_cases there : index < h.directories.length
    · simp [there, item_eq, Header.directory]
    · simp [there, Header.directory]

theorem yields_offset (rva : Int) : Yields i.sections (i.offsetReading rva) (i.offset? rva) := by
  unfold offsetReading offset?
  cases i.header? with
  | none => exact .pure _
  | some h => exact yields_locate i.sections _

theorem yields_entryPoint : Yields i.sections i.entryPointReading i.entryPoint? := by
  unfold entryPointReading entryPoint?
  cases i.header? with
  | none => exact .pure _
  | some h =>
    by_cases mapped : i.isMapped
    · simp only [mapped]
      exact .pure _
    · simp only [mapped]
      exact yields_locate i.sections (some h.entryPoint)

theorem yields_checksum : Yields i.sections i.checksumReading i.checksum? := by
  unfold checksumReading checksum?
  cases i.header? with
  | none => exact .pure _
  | some h =>
    simp only [calculateChecksum_eq, pure_bind]
    exact .pure _

/-- Only an image has a directory, so its headers are there. -/
theorem yields_imports : Yields i.sections i.importReading i.readImports := by
  unfold importReading readImports
  rw [directoryReading_eq, pure_bind, directory]
  cases i.header? with
  | none => exact .pure _
  | some h =>
    simp only [Option.elim_some, given_some, pure_bind]
    split
    · exact .pure _
    · exact Guarded.yields_imports ⟨i.data, h.layout, i.sections, i.limits⟩ _

theorem yields_exports : Yields i.sections i.exportReading i.readExports := by
  unfold exportReading readExports
  rw [directoryReading_eq, pure_bind]
  dsimp only
  split
  · exact .pure _
  · exact Guarded.yields_exports _

theorem yields_resources : Yields i.sections i.resourceReading i.readResources := by
  unfold resourceReading readResources
  rw [directoryReading_eq, pure_bind]
  dsimp only
  split
  · exact .pure _
  · exact Guarded.yields_resources _ _ _ _

theorem yields_versionInfo (index : ResourceIndex) :
    Yields i.sections (i.versionReading index) (i.readVersionInfo index) := by
  unfold versionReading readVersionInfo
  rw [versionInfo_eq]
  split <;> exact .pure _

theorem yields_rich : Yields i.sections i.richReading i.readRich := by
  unfold richReading readRich
  cases i.header? with
  | none => exact .pure _
  | some h =>
    simp only [rich_eq]
    exact .pure _

theorem yields_pdbPath : Yields i.sections i.pdbPathReading i.readPdbPath := by
  unfold pdbPathReading readPdbPath
  rw [directoryReading_eq, pure_bind]
  dsimp only
  split
  · exact .pure _
  · exact Guarded.yields_pdbPath _ _ _

end Image

end PeFacts
