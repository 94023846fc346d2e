import PeFacts.Guarded
import PeFacts.Header

/-!
# Guarded reading of the headers

The headers are read field by field. Fields that everything else is computed from must be there;
the others count as zero where they are not. `header_eq` says that the checks before the fields
let none of them be missing.
-/

namespace PeFacts.Guarded

open Header

/-- A version whose two numbers have `width` bytes each. -/
def version (data : Bytes) (off width : Nat) : Guarded Version := do
  let major? ← number? data off width
  let minor? ← number? data (off + width) width
  return ⟨major?.getD 0, minor?.getD 0⟩

/-- A number that counts as zero where it is not there. -/
def numberOrZero (data : Bytes) (off width : Nat) : Guarded Nat :=
  return (← number? data off width).getD 0

/-- The data directories from `off` on that end at `stop` or before, at most `left` of them. -/
def directoriesFrom (data : Bytes) (stop off : Nat) : (left : Nat) → Guarded (List DataDirectory)
  | 0 => return []
  | left + 1 => do
    if off + 8 > stop then return []
    let address ← numberOrZero data off 4
    let size ← numberOrZero data (off + 4) 4
    return ⟨address, size⟩ :: (← directoriesFrom data stop (off + 8) left)

/-- The headers in the given layout, whose fixed part is inside the buffer. -/
def decodeHeader (data : Bytes) (eLfanew : Nat) (layout : HeaderLayout) : Guarded Header := do
  let coff := eLfanew + 4
  let optional := coff + coffSize
  let sizeOfOptionalHeader ← number data (coff + 16) 2
  let announced ← numberOrZero data (optional + layout.directoryCountOffset) 4
  let stop := min (optional + sizeOfOptionalHeader) data.size
  return {
    eLfanew
    machine := ← number data coff 2
    numberOfSections := ← number data (coff + 2) 2
    timestamp := ← number data (coff + 4) 4
    pointerToSymbolTable := ← number data (coff + 8) 4
    numberOfSymbols := ← number data (coff + 12) 4
    sizeOfOptionalHeader
    characteristics := ← number data (coff + 18) 2
    layout
    optionalHeaderOffset := optional
    magic := ← number data optional 2
    linkerVersion := ← version data (optional + 0x02) 1
    entryPoint := ← numberOrZero data (optional + 0x10) 4
    imageBase := ← numberOrZero data (optional + layout.imageBaseOffset) layout.imageBaseSize
    sectionAlignment := ← numberOrZero data (optional + 0x20) 4
    fileAlignment := ← numberOrZero data (optional + 0x24) 4
    osVersion := ← version data (optional + 0x28) 2
    imageVersion := ← version data (optional + 0x2C) 2
    subsystemVersion := ← version data (optional + 0x30) 2
    sizeOfImage := ← numberOrZero data (optional + 0x38) 4
    sizeOfHeaders := ← numberOrZero data (optional + 0x3C) 4
    checksum := ← numberOrZero data (optional + checksumFieldOffset) 4
    subsystem := ← numberOrZero data (optional + 0x44) 2
    dllCharacteristics := ← numberOrZero data (optional + 0x46) 2
    numberOfRvaAndSizes := announced
    directories :=
      ← directoriesFrom data stop (optional + layout.directoriesOffset) (min announced maxDirectories) }

/-- The headers of a buffer with their problems, or the reason why it is no image. -/
def header (data : Bytes) : Guarded (Except Problem (Header × List Problem)) := do
  if !data.holds 0 dosSize || !data.matchesAt dosSignature 0 then return .error .noDosSignature
  let eLfanew ← number data eLfanewOffset 4
  if !data.holds eLfanew 4 then return .error (.newHeaderOutside eLfanew)
  if !data.matchesAt ntSignature eLfanew then return .error (.badNtSignature eLfanew)
  let coff := eLfanew + 4
  if !data.holds coff coffSize then return .error (.coffTruncated coff)
  let optional := coff + coffSize
  match ← number? data optional 2 with
  | none => return .error (.optionalMissing optional)
  | some magic =>
    let layout := HeaderLayout.ofMagic magic
    if !data.holds optional layout.directoriesOffset then
      return .error (.optionalTruncated optional layout.name)
    let header ← decodeHeader data eLfanew layout
    return .ok (header, header.problems data)

theorem numberOrZero_eq {data : Bytes} {off width : Nat} (h : off + width ≤ data.size) :
    numberOrZero data off width = pure (data.number off width) := by
  simp [numberOrZero, number?_of_le h]

theorem version_eq {data : Bytes} {off width : Nat} (h : off + 2 * width ≤ data.size) :
    version data off width = pure ⟨data.number off width, data.number (off + width) width⟩ := by
  have major : number? data off width = pure (some _) := number?_of_le (by omega)
  have minor : number? data (off + width) width = pure (some _) := number?_of_le (by omega)
  simp [version, major, minor]

theorem directoryTable_succ (data : Bytes) (off count : Nat) :
    directoryTable data off (count + 1) =
      ⟨data.number off 4, data.number (off + 4) 4⟩ :: directoryTable data (off + 8) count := by
  simp only [directoryTable, List.range_succ_eq_map, List.map_cons, List.map_map, Nat.mul_zero,
    Nat.add_zero, List.cons.injEq, true_and]
  refine List.map_congr_left fun i _ => ?_
  simp only [Function.comp_apply, Nat.succ_eq_add_one,
    show off + 8 * (i + 1) = off + 8 + 8 * i by omega]

/-- A table that stops inside the buffer is read without gaps. -/
theorem directoriesFrom_eq {data : Bytes} {stop : Nat} (h : stop ≤ data.size) (off left : Nat) :
    directoriesFrom data stop off left =
      pure (directoryTable data off (min left ((stop - off) / 8))) := by
  induction left generalizing off with
  | zero => simp [directoriesFrom, directoryTable]
  | succ left ih =>
    by_cases past : off + 8 > stop
    · have none_left : (stop - off) / 8 = 0 := by omega
      simp [directoriesFrom, past, none_left, directoryTable]
    · have one_more : min (left + 1) ((stop - off) / 8) =
          min left ((stop - (off + 8)) / 8) + 1 := by omega
      have address : numberOrZero data off 4 = pure _ := numberOrZero_eq (by omega)
      have size : numberOrZero data (off + 4) 4 = pure _ := numberOrZero_eq (by omega)
      simp [directoriesFrom, past, address, size, ih, one_more, directoryTable_succ]

/-- Inside the fixed part of the headers no field is missing. -/
theorem decodeHeader_eq {data : Bytes} {eLfanew : Nat} {layout : HeaderLayout}
    (h : eLfanew + 24 + layout.directoriesOffset ≤ data.size) :
    decodeHeader data eLfanew layout = pure (decode data eLfanew layout) := by
  have fixed : 0x60 ≤ layout.directoriesOffset := by cases layout <;> decide
  have count : layout.directoryCountOffset + 4 = layout.directoriesOffset := by cases layout <;> rfl
  have base : layout.imageBaseOffset + layout.imageBaseSize ≤ 0x60 := by cases layout <;> decide
  simp only [decodeHeader, coffSize, checksumFieldOffset]
  simp (disch := omega) only [number_eq, numberOrZero_eq, version_eq, pure_bind]
  rw [directoriesFrom_eq (Nat.min_le_right ..), pure_bind]
  rfl

/-- Reading the headers leaves the domain of no operation, and reads what they say. -/
theorem header_eq (data : Bytes) : header data = pure (Header.read data) := by
  unfold header
  rw [Header.read_eq]
  split
  · rfl
  next dos =>
    have room : 64 ≤ data.size := by simp [dosSize] at dos; exact dos.1
    rw [number_eq (by simp only [eLfanewOffset]; omega)]
    simp only [pure_bind]
    iterate 3
      split
      · rfl
    rw [number?_eq, Bytes.number?]
    by_cases magic : data.holds (data.number eLfanewOffset 4 + 4 + coffSize) 2
    · simp only [magic, if_true, pure_bind, Bool.not_true, Bool.false_eq_true, if_false]
      split
      · rfl
      next fixed =>
        rw [decodeHeader_eq (by simpa [coffSize, Nat.add_assoc] using fixed)]
        rfl
    · simp [magic]

end PeFacts.Guarded
