import PeFacts.Guarded.Section
import PeFacts.Guarded.Text
import PeFacts.Import

/-!
# Guarded reading of imports

The import directory is read descriptor by descriptor and thunk by thunk. An address may have no
position, a position no number and no text, and each of them is looked for before it is used:
`yields_imports`.
-/

namespace PeFacts.Guarded

open ImportTable

/-- The text at a position that may be missing, unless it is unreadable or empty. -/
def nonEmptyText? (data : Bytes) (off? : Option Nat) (maxLength : Int) : Guarded (Option String) :=
  return (← cString? data off? maxLength).filter fun text => !text.isEmpty

/-- The function that a thunk other than zero stands for. -/
def importedFunction? (src : Source) (thunk : Nat) : Guarded (Option ImportedFunction) := do
  if src.layout.ordinalFlag ≤ thunk then
    return some ⟨none, some ((thunk % 0x10000 : Nat) : Int), none⟩
  let off? ← locate src.sections (some (thunk % 0x80000000))
  match ← numberAt? src.data off? 2 with
  | none => return none
  | some hint =>
    -- The name stands after the hint, so there must be a position to add to.
    let nameOffset := (← given off?) + 2
    let name? ← nonEmptyText? src.data (some nameOffset) src.limits.maxNameLength
    return name?.map fun name => ⟨some name, none, some hint⟩

/-- Reads thunks from `off` on, as long as `left` allows. -/
def thunksFrom (src : Source) (dll : String) (start off : Nat) :
    (left : Nat) → Reading ImportedFunction → Guarded (Reading ImportedFunction)
  | 0, r => return r.report (.tooManyFunctions dll src.limits.maxImportFunctions)
  | left + 1, r => do
    match ← number? src.data off src.layout.thunkSize with
    | none => return r.report (.thunksTruncated dll start)
    | some 0 => return r
    | some thunk =>
      let next := match ← importedFunction? src thunk with
        | some f => r.keep f
        | none => r.report (.importNameUnreadable dll thunk)
      thunksFrom src dll start (off + src.layout.thunkSize) left next

/-- The functions of one DLL, whose thunks are at an address. -/
def importedFunctions (src : Source) (dll : String) (thunksRva : Nat) :
    Guarded (Reading ImportedFunction) := do
  match ← locate src.sections (some thunksRva) with
  | none => return { problems := #[.thunksUnmappable thunksRva dll] }
  | some off =>
    if src.limits.maxImportFunctions < 0 then return {}
    thunksFrom src dll off off src.limits.maxImportFunctions.toNat {}

/-- Reads the descriptor at `off`, which is inside the buffer. -/
def importDescriptor (src : Source) (off : Nat) (r : Reading ImportedDll) :
    Guarded (Reading ImportedDll) := do
  let unboundThunks ← number src.data off 4
  let nameRva ← number src.data (off + 12) 4
  let boundThunks ← number src.data (off + 16) 4
  let nameOffset? ← locate src.sections (some nameRva)
  match ← nonEmptyText? src.data nameOffset? src.limits.maxNameLength with
  | none => return r.report (.dllNameUnreadable nameRva)
  | some name =>
    let functions ← importedFunctions src name
      (if unboundThunks = 0 then boundThunks else unboundThunks)
    return {
      found := r.found.push ⟨name, functions.found.toList⟩
      problems := r.problems ++ functions.problems }

/-- Reads descriptors from `off` on, as long as `left` allows. -/
def descriptorsFrom (src : Source) (off : Nat) :
    (left : Nat) → Reading ImportedDll → Guarded (Reading ImportedDll)
  | 0, r => return r.report (.tooManyDlls src.limits.maxImportDlls)
  | left + 1, r =>
    match src.data.span? off descriptorSize with
    | none => return r.report (.importDescriptorTruncated off)
    | some descriptor => do
      if descriptor.all (· == 0) then return r
      descriptorsFrom src (off + descriptorSize) left (← importDescriptor src off r)

/-- The import table at an address, with the problems met. -/
def imports (src : Source) (rva : Nat) : Guarded (ImportTable × List Problem) := do
  match ← locate src.sections (some rva) with
  | none => return ({}, [.importsUnmappable rva])
  | some off =>
    if src.limits.maxImportDlls < 0 then return ({}, [])
    let r ← descriptorsFrom src off src.limits.maxImportDlls.toNat {}
    return (⟨r.found.toList⟩, r.problems.toList)

variable (src : Source)

theorem nonEmptyText?_eq (data : Bytes) (off? : Option Nat) (maxLength : Int) :
    nonEmptyText? data off? maxLength =
      pure ((off?.bind fun off => data.cString? off maxLength).filter fun text => !text.isEmpty) :=
  rfl

/-- The text of an address is the text at its position. -/
theorem text?_eq (rva skip : Nat) :
    src.text? rva skip = ((src.sections.offset? rva).bind fun off =>
      src.data.cString? (off + skip) src.limits.maxNameLength).filter fun text => !text.isEmpty := by
  unfold Source.text?
  cases src.sections.offset? rva with
  | none => rfl
  | some off =>
    simp only [Option.bind_eq_bind, Option.bind_some]
    cases src.data.cString? (off + skip) src.limits.maxNameLength with
    | none => rfl
    | some text => cases h : text.isEmpty <;> simp only [Option.bind_some, Option.filter, h] <;> rfl

theorem yields_importedFunction (thunk : Nat) :
    Yields src.sections (importedFunction? src thunk) (src.function? thunk) := by
  unfold importedFunction? Source.function?
  split
  · exact .pure _
  · refine (yields_locate src.sections _).bind ?_
    simp only [text?_eq, numberAt?_eq, Option.bind_some]
    cases src.sections.offset? (thunk % 0x80000000) with
    | none => exact .pure _
    | some off =>
      simp only [Option.bind_some, Option.bind_eq_bind, Bytes.u16?, pure_bind]
      cases src.data.number? off 2 with
      | none => exact .pure _
      | some hint =>
        simp only [given_some, nonEmptyText?_eq, pure_bind, Option.bind_some]
        cases (src.data.cString? (off + 2) src.limits.maxNameLength).filter fun text =>
          !text.isEmpty <;> exact .pure _

theorem yields_thunksFrom (dll : String) (start off left : Nat) (r : Reading ImportedFunction) :
    Yields src.sections (thunksFrom src dll start off left r)
      (src.thunksFrom dll start off left r) := by
  induction left generalizing off r with
  | zero => exact .pure _
  | succ left ih =>
    simp only [thunksFrom, Source.thunksFrom, number?_eq, pure_bind]
    rcases src.data.number? off src.layout.thunkSize with _ | _ | thunk
    · exact .pure _
    · exact .pure _
    · exact (yields_importedFunction src _).bind (ih _ _)

theorem yields_importedFunctions (dll : String) (thunksRva : Nat) :
    Yields src.sections (importedFunctions src dll thunksRva) (src.functions dll thunksRva) := by
  refine (yields_locate src.sections _).bind ?_
  rw [Option.bind_some, Source.functions]
  cases src.sections.offset? thunksRva with
  | none => exact .pure _
  | some off =>
    dsimp only
    split
    · exact .pure _
    · exact yields_thunksFrom src dll off off _ {}

/-- A descriptor inside the buffer has all its fields. -/
theorem yields_importDescriptor {off : Nat} (room : off + descriptorSize ≤ src.data.size)
    (r : Reading ImportedDll) :
    Yields src.sections (importDescriptor src off r) (src.descriptor off r) := by
  simp only [descriptorSize] at room
  simp (disch := omega) only [importDescriptor, Source.descriptor, number_eq, pure_bind, text?_eq,
    nonEmptyText?_eq]
  refine (yields_locate src.sections _).bind ?_
  simp only [Option.bind_some, Nat.add_zero]
  generalize ((src.sections.offset? _).bind _).filter _ = name?
  cases name? with
  | none => exact .pure _
  | some name => exact (yields_importedFunctions src name _).bind (.pure _)

theorem yields_descriptorsFrom (off left : Nat) (r : Reading ImportedDll) :
    Yields src.sections (descriptorsFrom src off left r) (src.descriptorsFrom off left r) := by
  induction left generalizing off r with
  | zero => exact .pure _
  | succ left ih =>
    simp only [descriptorsFrom, Source.descriptorsFrom]
    cases inside : src.data.span? off descriptorSize with
    | none => exact .pure _
    | some descriptor =>
      have room := (Bytes.span?_eq_some_iff.1 inside).1
      dsimp only
      split
      · exact .pure _
      · exact (yields_importDescriptor src room r).bind (ih _ _)

/-- Reading the imports leaves the domain of no operation. -/
theorem yields_imports (rva : Nat) :
    Yields src.sections (imports src rva) (ImportTable.read src rva) := by
  refine (yields_locate src.sections _).bind ?_
  rw [Option.bind_some, ImportTable.read]
  cases src.sections.offset? rva with
  | none => exact .pure _
  | some off =>
    dsimp only
    split
    · exact .pure _
    · exact (yields_descriptorsFrom src off _ {}).bind (.pure _)

end PeFacts.Guarded
