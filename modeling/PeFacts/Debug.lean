import PeFacts.Section

/-!
# Debug directory

The debug directory lists debug records; a CodeView record names the program database. The path of
the first record that has a usable one is the fact that is read.
-/

namespace PeFacts.Debug

/-- The size of a directory entry. -/
def entrySize : Nat := 28

/-- No more entries than this are read. -/
def maxEntries : Nat := 64

/-- The type of an entry that locates a CodeView record. -/
def codeView : Nat := 2

/-- Where the path stands in a CodeView record, by the four letters the record begins with. -/
def pathOffset? (data : Bytes) (off : Nat) : Option Nat :=
  if data.matchesAt #[0x52, 0x53, 0x44, 0x53] off then some (off + 24)
  else if data.matchesAt #[0x4E, 0x42, 0x31, 0x30] off then some (off + 16)
  else none

/-- The path of the CodeView record at `off`, when there is one that is not empty. -/
def path? (data : Bytes) (off : Nat) (maxLength : Int) : Option String := do
  let path ← data.cString? (← pathOffset? data off) maxLength
  if path.isEmpty then none else some path

/-- Where the record of the entry at `off` stands: a memory image locates it by its address, a file
by its position. -/
def recordOffset? (data : Bytes) (off : Nat) (mapped : Bool) : Option Nat :=
  data.u32? (if mapped then off + 20 else off + 24)

/-- Reads `left` entries from `off` on, up to the first usable path. -/
def pathFrom (data : Bytes) (mapped : Bool) (maxLength : Int) (index off : Nat) :
    Nat → Option String × List Problem
  | 0 => (none, [])
  | left + 1 =>
    match data.u32? (off + 12) with
    | none => (none, [.debugDirectoryTruncated index])
    | some type =>
      let path :=
        if type = codeView then
          (recordOffset? data off mapped).bind (path? data · maxLength)
        else none
      match path with
      | some found => (some found, [])
      | none => pathFrom data mapped maxLength (index + 1) (off + entrySize) left

/-- The path of the program database, with the problems met. -/
def pdbPath (data : Bytes) (sections : SectionTable) (directory : DataDirectory)
    (maxLength : Int) : Option String × List Problem :=
  match sections.offset? directory.address with
  | none => (none, [.debugUnmappable directory.address])
  | some off =>
    pathFrom data sections.mapped maxLength 0 off (min (directory.size / entrySize) maxEntries)

end PeFacts.Debug
