import PeFacts.Reading
import PeFacts.Section
import PeFacts.Text.Lower

/-!
# Imports

The import directory is an array of descriptors, one for each DLL, ended by a descriptor of zero
bytes. A descriptor names the DLL and an array of thunks, ended by a zero thunk; a thunk holds an
ordinal or the address of a hint and a name. `ImportTable.read` keeps what is readable, in order,
and reports each descriptor and thunk it has to skip.
-/

namespace PeFacts

/-- One imported function: by its name, found with a hint, or by its ordinal. -/
structure ImportedFunction where
  name? : Option String
  ordinal? : Option Int
  hint? : Option Nat := none
  deriving Repr, DecidableEq, Inhabited

/-- The function is imported without a name. -/
def ImportedFunction.byOrdinal (f : ImportedFunction) : Bool := f.name?.isNone

/-- A DLL and the functions imported from it. -/
structure ImportedDll where
  name : String
  functions : List ImportedFunction
  deriving Repr, DecidableEq, Inhabited

namespace ImportedDll

/-- The names among the functions, in order. -/
def names (d : ImportedDll) : List String := d.functions.filterMap (·.name?)

/-- The ordinals among the functions, in order. -/
def ordinals (d : ImportedDll) : List Int := d.functions.filterMap (·.ordinal?)

/-- A DLL as a record of the names and the ordinals of its functions. -/
def toValue (d : ImportedDll) : Value :=
  .record [
    ("dll", .text d.name),
    ("functions", .list (d.names.map .text)),
    ("ordinals", .list (d.ordinals.map .int))]

end ImportedDll

/-- How a rule asks for a function: any one, one of this name, or one of this ordinal. -/
inductive FunctionKey
  | any
  | name (s : String)
  | ordinal (n : Int)
  deriving Repr, DecidableEq

/-- The imported DLLs, in the order of their descriptors. -/
structure ImportTable where
  dlls : List ImportedDll := []
  deriving Repr, DecidableEq, Inhabited

namespace ImportTable

/-- How many functions are imported in all. -/
def functionCount (t : ImportTable) : Nat :=
  t.dlls.foldl (fun sum d => sum + d.functions.length) 0

/-- The function answers to the key, whose name is in lower case. -/
def answers (key : FunctionKey) (f : ImportedFunction) : Bool :=
  match key with
  | .any => true
  | .name s => f.name?.any fun n => lowerText n == s
  | .ordinal n => f.ordinal? == some n

/-- A key with its name in lower case. -/
def lowerKey : FunctionKey → FunctionKey
  | .name s => .name (lowerText s)
  | key => key

/-- Some DLL of this name, in any case, is imported, with such a function if one is asked for. -/
def imports (t : ImportTable) (dll : String) (key : FunctionKey := .any) : Bool :=
  let wanted := lowerText dll
  let key := lowerKey key
  t.dlls.any fun d => lowerText d.name == wanted && (key == .any || d.functions.any (answers key))

/-- The size of a descriptor. -/
def descriptorSize : Nat := 20

/-- What the import directory is read from. -/
structure Source where
  data : Bytes
  layout : HeaderLayout
  sections : SectionTable
  limits : Limits

/-- The text at an address, when it can be mapped and is not empty. -/
def Source.text? (src : Source) (rva : Nat) (skip : Nat := 0) : Option String := do
  let off ← src.sections.offset? rva
  let name ← src.data.cString? (off + skip) src.limits.maxNameLength
  if name.isEmpty then none else some name

/-- The function that a thunk other than zero stands for. -/
def Source.function? (src : Source) (thunk : Nat) : Option ImportedFunction :=
  -- The flag is the highest bit of a thunk.
  if src.layout.ordinalFlag ≤ thunk then some ⟨none, some ((thunk % 0x10000 : Nat) : Int), none⟩
  else do
    let rva := thunk % 0x80000000
    let hint ← src.data.u16? (← src.sections.offset? rva)
    let name ← src.text? rva 2
    return ⟨some name, none, some hint⟩

/-- Reads thunks from `off` on, as long as `left` allows. -/
def Source.thunksFrom (src : Source) (dll : String) (start : Nat) (off : Nat) :
    Nat → Reading ImportedFunction → Reading ImportedFunction
  | 0, r => r.report (.tooManyFunctions dll src.limits.maxImportFunctions)
  | left + 1, r =>
    match src.data.number? off src.layout.thunkSize with
    | none => r.report (.thunksTruncated dll start)
    | some 0 => r
    | some thunk =>
      let next := match src.function? thunk with
        | some f => r.keep f
        | none => r.report (.importNameUnreadable dll thunk)
      src.thunksFrom dll start (off + src.layout.thunkSize) left next

/-- The functions of one DLL, whose thunks are at an address. -/
def Source.functions (src : Source) (dll : String) (thunksRva : Nat) : Reading ImportedFunction :=
  match src.sections.offset? thunksRva with
  | none => { problems := #[.thunksUnmappable thunksRva dll] }
  | some off =>
    if src.limits.maxImportFunctions < 0 then {}
    else src.thunksFrom dll off off src.limits.maxImportFunctions.toNat {}

/-- Reads the descriptor at `off`. -/
def Source.descriptor (src : Source) (off : Nat) (r : Reading ImportedDll) : Reading ImportedDll :=
  let unboundThunks := src.data.number off 4
  let nameRva := src.data.number (off + 12) 4
  let boundThunks := src.data.number (off + 16) 4
  match src.text? nameRva with
  | none => r.report (.dllNameUnreadable nameRva)
  | some name =>
    let functions := src.functions name (if unboundThunks = 0 then boundThunks else unboundThunks)
    { found := r.found.push ⟨name, functions.found.toList⟩
      problems := r.problems ++ functions.problems }

/-- Reads descriptors from `off` on, as long as `left` allows. -/
def Source.descriptorsFrom (src : Source) (off : Nat) :
    Nat → Reading ImportedDll → Reading ImportedDll
  | 0, r => r.report (.tooManyDlls src.limits.maxImportDlls)
  | left + 1, r =>
    match src.data.span? off descriptorSize with
    | none => r.report (.importDescriptorTruncated off)
    | some descriptor =>
      if descriptor.all (· == 0) then r
      else src.descriptorsFrom (off + descriptorSize) left (src.descriptor off r)

/-- The import table at an address, with the problems met. -/
def read (src : Source) (rva : Nat) : ImportTable × List Problem :=
  match src.sections.offset? rva with
  | none => ({}, [.importsUnmappable rva])
  | some off =>
    if src.limits.maxImportDlls < 0 then ({}, [])
    else
      let r := src.descriptorsFrom off src.limits.maxImportDlls.toNat {}
      (⟨r.found.toList⟩, r.problems.toList)

end ImportTable

end PeFacts
