import PeFacts.Import

/-!
# Exports

The export directory names the library and holds two tables: addresses, whose places give the
ordinals, and addresses of names. Each table has its own count; a place without an address exports
nothing, and an unreadable name is reported and skipped.
-/

namespace PeFacts

/-- Without names there is nothing to look up. By its name, tables without names are one term wherever
they are written. -/
theorem nothing_indexed : [] = [].map lowerText := rfl

/-- What a library exports. -/
structure ExportTable where
  present : Bool := false
  dllName? : Option String := none
  timestamp? : Option Nat := none
  ordinalBase : Nat := 0
  functionCount : Nat := 0
  names : List String := []
  ordinals : List Nat := []
  /-- The names in lower case: a name is looked up among these. -/
  lowerNames : List String := []
  indexed : lowerNames = names.map lowerText := by first | exact nothing_indexed | rfl
  deriving Repr, DecidableEq

namespace ExportTable

instance : Inhabited ExportTable := ⟨{}⟩

/-- The function is exported: under this name in any case, or under this ordinal. -/
def exports (t : ExportTable) : FunctionKey → Bool
  | .any => false
  | .name s => t.lowerNames.contains (lowerText s)
  | .ordinal n => t.ordinals.any fun m => (m : Int) == n

theorem exports_name_iff {t : ExportTable} {s : String} :
    t.exports (.name s) = true ↔ ∃ n ∈ t.names, lowerText n = lowerText s := by
  simp [exports, t.indexed]

theorem exports_ordinal_iff {t : ExportTable} {n : Int} :
    t.exports (.ordinal n) = true ↔ ∃ m ∈ t.ordinals, (m : Int) = n := by
  simp [exports]

/-- The size of the export directory. -/
def directorySize : Nat := 40

/-- The 32-bit slots of a table at `off`, at most `count` of them and as many as are readable. -/
def slots (data : Bytes) (off count : Nat) : List Nat :=
  (List.range (min count ((data.size - off) / 4))).map fun i => data.number (off + 4 * i) 4

/-- How many slots to read, and whether that is fewer than the table announces. -/
def clampCount (announced : Nat) (limit : Int) : Nat × Bool :=
  if (announced : Int) > limit then (limit.toNat, true) else (announced, false)

/-- The slots of a table at an address, `none` when the address cannot be mapped. The address zero
stands for no table. -/
def tableSlots? (data : Bytes) (sections : SectionTable) (rva count : Nat) : Option (List Nat) :=
  if rva = 0 then none else (sections.offset? rva).map (slots data · count)

/-- The ordinals of the address table. -/
def readOrdinals (data : Bytes) (sections : SectionTable) (base announced rva : Nat)
    (limit : Int) : List Nat × List Problem :=
  if announced = 0 then ([], [])
  else
    let (count, clamped) := clampCount announced limit
    let before := if clamped then [.tooManyExportedFunctions announced limit] else []
    match tableSlots? data sections rva count with
    | none => ([], before ++ [.exportAddressesUnmappable rva])
    | some found =>
      let ordinals := found.zipIdx.filterMap fun (slot, i) =>
        if slot = 0 then none else some (base + i)
      (ordinals, before ++
        (if found.length < count then [.exportAddressesTruncated found.length] else []))

/-- The text at an address, which may be empty. -/
def text? (data : Bytes) (sections : SectionTable) (limits : Limits) (rva : Nat) : Option String :=
  (sections.offset? rva).bind (data.cString? · limits.maxNameLength)

/-- The name at an address: a text that is not empty. -/
def name? (data : Bytes) (sections : SectionTable) (limits : Limits) (rva : Nat) : Option String :=
  (text? data sections limits rva).filter fun name => !name.isEmpty

/-- The names of the name table. -/
def readNames (data : Bytes) (sections : SectionTable) (limits : Limits)
    (announced namesRva ordinalsRva : Nat) : List String × List Problem :=
  if announced = 0 then ([], [])
  else
    let (count, clamped) := clampCount announced limits.maxExports
    let before := if clamped then [.tooManyExportedNames announced limits.maxExports] else []
    match tableSlots? data sections namesRva count with
    | none => ([], before ++ [.exportNamesUnmappable namesRva ordinalsRva])
    | some found =>
      let named := found.map fun rva => (rva, name? data sections limits rva)
      let unreadable := named.filterMap fun (rva, name) =>
        if name.isNone then some (.exportNameUnreadable rva) else none
      (named.filterMap (·.2), before ++ unreadable ++
        (if found.length < count then [.exportNamesTruncated found.length] else []))

/-- The export table at an address, with the problems met. -/
def read (data : Bytes) (sections : SectionTable) (limits : Limits) (rva : Nat) :
    ExportTable × List Problem :=
  match sections.offset? rva with
  | none => ({}, [.exportsUnmappable rva])
  | some off =>
    if !data.holds off directorySize then ({}, [.exportDirectoryTruncated off])
    else
      let nameRva := data.number (off + 12) 4
      let base := data.number (off + 16) 4
      let functionCount := data.number (off + 20) 4
      let dllName? := if nameRva = 0 then none else text? data sections limits nameRva
      let nameProblems :=
        if nameRva ≠ 0 ∧ dllName?.all (·.isEmpty) then [.exportDllNameUnreadable nameRva] else []
      let (ordinals, ordinalProblems) :=
        readOrdinals data sections base functionCount (data.number (off + 28) 4) limits.maxExports
      let (names, namesProblems) :=
        readNames data sections limits (data.number (off + 24) 4) (data.number (off + 32) 4)
          (data.number (off + 36) 4)
      ({ present := true
         dllName?
         timestamp? := some (data.number (off + 4) 4)
         ordinalBase := base
         functionCount
         names
         ordinals
         lowerNames := names.map lowerText },
        nameProblems ++ ordinalProblems ++ namesProblems)

/-- The export table as a record. -/
def toValue (t : ExportTable) : Value :=
  .record [
    ("present", .bool t.present),
    ("dll_name", .option .text t.dllName?),
    ("timestamp", .option .nat t.timestamp?),
    ("ordinal_base", .nat t.ordinalBase),
    ("function_count", .nat t.functionCount),
    ("name_count", .nat t.names.length),
    ("names", .list (t.names.map .text)),
    ("ordinals", .list (t.ordinals.map .nat))]

end ExportTable

end PeFacts
