import PeFacts.Export
import PeFacts.Guarded.Import

/-!
# Guarded reading of exports

The two tables of the export directory are read slot by slot, up to the first slot that is not
there. `yields_exports` says that this gives the tables as a whole.
-/

namespace PeFacts.Guarded

open ExportTable

/-- Reads the slots of the address table from `off` on, the first of which is the one at `i`. -/
def ordinalsFrom (data : Bytes) (base i off : Nat) :
    (left : Nat) → Reading Nat → Guarded (Reading Nat)
  | 0, r => return r
  | left + 1, r => do
    match ← number? data off 4 with
    | none => return r.report (.exportAddressesTruncated i)
    | some slot =>
      ordinalsFrom data base (i + 1) (off + 4) left (if slot = 0 then r else r.keep (base + i))

/-- The position of a table; the address zero stands for no table. -/
def tableOffset? (t : SectionTable) (rva : Nat) : Guarded (Option Nat) :=
  if rva = 0 then return none else locate t (some rva)

/-- The ordinals of the address table. -/
def exportOrdinals (data : Bytes) (t : SectionTable) (base announced rva : Nat) (limit : Int) :
    Guarded (Reading Nat) := do
  if announced = 0 then return {}
  let (count, clamped) := clampCount announced limit
  let before : Reading Nat :=
    if clamped then { problems := #[.tooManyExportedFunctions announced limit] } else {}
  match ← tableOffset? t rva with
  | none => return before.report (.exportAddressesUnmappable rva)
  | some off => ordinalsFrom data base 0 off count before

/-- Reads the slots of the name table from `off` on, the first of which is the one at `i`. -/
def namesFrom (data : Bytes) (t : SectionTable) (limits : Limits) (i off : Nat) :
    (left : Nat) → Reading String → Guarded (Reading String)
  | 0, r => return r
  | left + 1, r => do
    match ← number? data off 4 with
    | none => return r.report (.exportNamesTruncated i)
    | some rva =>
      let name? ← nonEmptyText? data (← locate t (some rva)) limits.maxNameLength
      namesFrom data t limits (i + 1) (off + 4) left
        (name?.elim (r.report (.exportNameUnreadable rva)) r.keep)

/-- The names of the name table. -/
def exportNames (data : Bytes) (t : SectionTable) (limits : Limits)
    (announced namesRva ordinalsRva : Nat) : Guarded (Reading String) := do
  if announced = 0 then return {}
  let (count, clamped) := clampCount announced limits.maxExports
  let before : Reading String :=
    if clamped then { problems := #[.tooManyExportedNames announced limits.maxExports] } else {}
  match ← tableOffset? t namesRva with
  | none => return before.report (.exportNamesUnmappable namesRva ordinalsRva)
  | some off => namesFrom data t limits 0 off count before

/-- The name that the library has for itself, which may be empty. -/
def exportDllName? (data : Bytes) (t : SectionTable) (limits : Limits) (rva : Nat) :
    Guarded (Option String) := do
  if rva = 0 then return none
  cString? data (← locate t (some rva)) limits.maxNameLength

/-- The export table at an address, with the problems met. -/
def exports (data : Bytes) (t : SectionTable) (limits : Limits) (rva : Nat) :
    Guarded (ExportTable × List Problem) := do
  match ← locate t (some rva) with
  | none => return ({}, [.exportsUnmappable rva])
  | some off =>
    if !data.holds off directorySize then return ({}, [.exportDirectoryTruncated off])
    let timestamp ← number data (off + 4) 4
    let nameRva ← number data (off + 12) 4
    let ordinalBase ← number data (off + 16) 4
    let functionCount ← number data (off + 20) 4
    let nameCount ← number data (off + 24) 4
    let addressesRva ← number data (off + 28) 4
    let namesRva ← number data (off + 32) 4
    let ordinalsRva ← number data (off + 36) 4
    let dllName? ← exportDllName? data t limits nameRva
    let nameProblems :=
      if nameRva ≠ 0 ∧ dllName?.all (·.isEmpty) then [.exportDllNameUnreadable nameRva] else []
    let ordinals ←
      exportOrdinals data t ordinalBase functionCount addressesRva limits.maxExports
    let names ← exportNames data t limits nameCount namesRva ordinalsRva
    return (
      { present := true
        dllName?
        timestamp? := some timestamp
        ordinalBase
        functionCount
        names := names.found.toList
        ordinals := ordinals.found.toList
        lowerNames := names.found.toList.map lowerText },
      nameProblems ++ ordinals.problems.toList ++ names.problems.toList)

/-! ## Slots one by one -/

theorem slots_zero (data : Bytes) (off : Nat) : slots data off 0 = [] := by
  simp [slots]

theorem slots_of_lt {data : Bytes} {off : Nat} (h : data.size < off + 4) (count : Nat) :
    slots data off count = [] := by
  have none_left : (data.size - off) / 4 = 0 := by omega
  simp [slots, none_left]

theorem slots_succ {data : Bytes} {off : Nat} (h : off + 4 ≤ data.size) (count : Nat) :
    slots data off (count + 1) = data.number off 4 :: slots data (off + 4) count := by
  have one_more : min (count + 1) ((data.size - off) / 4) =
      min count ((data.size - (off + 4)) / 4) + 1 := by omega
  rw [slots, one_more, List.range_succ_eq_map, List.map_cons, List.map_map, slots]
  refine congrArg _ (List.map_congr_left fun i _ => ?_)
  simp only [Function.comp_apply, Nat.succ_eq_add_one, Nat.mul_succ, show
    off + (4 * i + 4) = off + 4 + 4 * i by omega]

/-- The ordinals in slots, the first of which is the one at `i`. -/
def ordinalsOf (base i : Nat) (found : List Nat) : List Nat :=
  (found.zipIdx i).filterMap fun (slot, i) => if slot = 0 then none else some (base + i)

theorem ordinalsFrom_eq (data : Bytes) (base i off left : Nat) (r : Reading Nat) :
    ordinalsFrom data base i off left r = pure
      { found := r.found ++ ordinalsOf base i (slots data off left)
        problems := r.problems ++ (if (slots data off left).length < left then
          [Problem.exportAddressesTruncated (i + (slots data off left).length)] else []) } := by
  induction left generalizing i off r with
  | zero => simp [ordinalsFrom, slots_zero, ordinalsOf]
  | succ left ih =>
    by_cases room : off + 4 ≤ data.size
    · rw [ordinalsFrom, number?_of_le room, pure_bind, slots_succ room]
      dsimp only
      rw [ih]
      by_cases empty : data.number off 4 = 0 <;>
        simp [empty, ordinalsOf, Reading.keep, Nat.add_assoc, Nat.add_comm 1]
    · rw [ordinalsFrom, number?_eq, slots_of_lt (by omega)]
      simp [Bytes.number?, room, Reading.report, ordinalsOf]

variable {data : Bytes} {t : SectionTable} {limits : Limits}

theorem nonEmptyText?_position (rva : Nat) :
    nonEmptyText? data (t.offset? rva) limits.maxNameLength = pure (name? data t limits rva) := by
  rw [nonEmptyText?_eq, name?, text?]

theorem yields_tableOffset (rva : Nat) :
    Yields t (tableOffset? t rva) (if rva = 0 then none else t.offset? rva) := by
  unfold tableOffset?
  split
  · exact .pure _
  · exact yields_locate t (some rva)

/-- The problems with the names at addresses. -/
def unreadableOf (data : Bytes) (t : SectionTable) (limits : Limits) (found : List Nat) :
    List Problem :=
  found.filterMap fun rva =>
    if (name? data t limits rva).isNone then some (.exportNameUnreadable rva) else none

theorem yields_namesFrom (i off left : Nat) (r : Reading String) :
    Yields t (namesFrom data t limits i off left r)
      { found := r.found ++ (slots data off left).filterMap (name? data t limits)
        problems := r.problems ++ (unreadableOf data t limits (slots data off left) ++
          if (slots data off left).length < left then
            [Problem.exportNamesTruncated (i + (slots data off left).length)] else []) } := by
  induction left generalizing i off r with
  | zero =>
    have done : namesFrom data t limits i off 0 r = pure r := rfl
    simpa [done, slots_zero, unreadableOf] using Yields.pure r
  | succ left ih =>
    by_cases room : off + 4 ≤ data.size
    · rw [namesFrom, number?_of_le room, pure_bind, slots_succ room]
      dsimp only
      refine (yields_locate t _).bind ?_
      rw [Option.bind_some, nonEmptyText?_position, pure_bind]
      cases named : name? data t limits (data.number off 4) with
      | none =>
        have rest := ih (i + 1) (off + 4) (r.report (.exportNameUnreadable (data.number off 4)))
        simpa [named, unreadableOf, Reading.report, Nat.add_assoc, Nat.add_comm 1] using rest
      | some name =>
        have rest := ih (i + 1) (off + 4) (r.keep name)
        simpa [named, unreadableOf, Reading.keep, Nat.add_assoc, Nat.add_comm 1] using rest
    · rw [namesFrom, number?_eq, slots_of_lt (by omega)]
      simpa [Bytes.number?, room, Reading.report, unreadableOf] using Yields.pure _

theorem yields_exportOrdinals (base announced rva : Nat) (limit : Int) :
    Yields t (exportOrdinals data t base announced rva limit)
      { found := (readOrdinals data t base announced rva limit).1.toArray
        problems := (readOrdinals data t base announced rva limit).2.toArray } := by
  unfold exportOrdinals readOrdinals
  split
  · exact .pure _
  · rcases clampCount announced limit with ⟨count, clamped⟩
    dsimp only
    refine (yields_tableOffset rva).bind ?_
    simp only [tableSlots?]
    by_cases none_there : rva = 0
    · simp only [none_there, if_true]
      cases clamped <;> exact .pure _
    · simp only [none_there, if_false]
      cases t.offset? rva with
      | none => cases clamped <;> exact .pure _
      | some off =>
        simp only [Option.map_some, ordinalsFrom_eq]
        cases clamped <;> simpa [ordinalsOf] using Yields.pure _

theorem yields_exportNames (announced namesRva ordinalsRva : Nat) :
    Yields t (exportNames data t limits announced namesRva ordinalsRva)
      { found := (readNames data t limits announced namesRva ordinalsRva).1.toArray
        problems := (readNames data t limits announced namesRva ordinalsRva).2.toArray } := by
  unfold exportNames readNames
  split
  · exact .pure _
  · rcases clampCount announced limits.maxExports with ⟨count, clamped⟩
    dsimp only
    refine (yields_tableOffset namesRva).bind ?_
    simp only [tableSlots?]
    by_cases none_there : namesRva = 0
    · simp only [none_there, if_true]
      cases clamped <;> exact .pure _
    · simp only [none_there, if_false]
      cases t.offset? namesRva with
      | none => cases clamped <;> exact .pure _
      | some off =>
        have rest (r : Reading String) := @yields_namesFrom data t limits 0 off count r
        cases clamped
        · simpa [unreadableOf, List.filterMap_map, Function.comp_def] using rest {}
        · simpa [unreadableOf, List.filterMap_map, Function.comp_def] using
            rest { problems := #[.tooManyExportedNames announced limits.maxExports] }

theorem yields_exportDllName (rva : Nat) :
    Yields t (exportDllName? data t limits rva)
      (if rva = 0 then none else text? data t limits rva) := by
  unfold exportDllName?
  split
  · exact .pure _
  · exact (yields_locate t (some rva)).bind (.pure _)

/-- Reading the exports leaves the domain of no operation. -/
theorem yields_exports (rva : Nat) :
    Yields t (exports data t limits rva) (ExportTable.read data t limits rva) := by
  refine (yields_locate t (some rva)).bind ?_
  rw [Option.bind_some, ExportTable.read]
  cases t.offset? rva with
  | none => exact .pure _
  | some off =>
    by_cases room : off + directorySize ≤ data.size
    · have fields : off + 40 ≤ data.size := room
      simp (disch := omega) only [Bytes.holds_iff.2 room, number_eq, pure_bind, Bool.not_true,
        Bool.false_eq_true, if_false]
      refine (yields_exportDllName _).bind ((yields_exportOrdinals _ _ _ _).bind
        ((yields_exportNames _ _ _).bind ?_))
      exact .pure _
    · have short : data.holds off directorySize = false := by simpa [Bytes.holds] using room
      simp only [short]
      exact .pure _

end PeFacts.Guarded
