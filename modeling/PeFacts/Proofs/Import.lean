import Mathlib
import PeFacts.Guarded.Import
import PeFacts.Proofs.Stored

/-!
# Import tables as they are laid out

`LaidOut src rva dlls` says that the buffer holds an import directory for `dlls`: descriptors, thunks
and names, each behind an address of its own, so they may stand in any order and share bytes. Reading
gives back what is laid out, DLL by DLL and thunk by thunk: `laid_out_imports_are_read`.
-/

namespace PeFacts.ImportTable

namespace Source

variable (src : Source)

/-- The name stands `skip` bytes after the position of an address and is shorter than the bound. -/
structure NameAt (rva skip : Nat) (name : String) : Prop where
  plain : IsName name
  short : (name.length : Int) < src.limits.maxNameLength
  stored : ∃ off, src.sections.offset? rva = some off ∧
    src.data.matchesAt (nameBytes name) (off + skip)

/-- What a thunk stands for: the flag with an ordinal, or the address of a hint and a name. -/
inductive ThunkFor : Nat → ImportedFunction → Prop
  | ordinal {n : Nat} (small : n < 0x10000) :
      ThunkFor (src.layout.ordinalFlag ||| n) ⟨none, some (n : Int), none⟩
  | name {rva off hint : Nat} {name : String} (used : rva ≠ 0) (small : rva < 0x80000000)
      (located : src.sections.offset? rva = some off) (hinted : src.data.u16? off = some hint)
      (named : src.NameAt rva 2 name) : ThunkFor rva ⟨some name, none, some hint⟩

/-- The thunks of the functions stand one after the other from `off` on, then a zero thunk. -/
def ThunksAt (off : Nat) : List ImportedFunction → Prop
  | [] => src.data.number? off src.layout.thunkSize = some 0
  | f :: rest =>
    (∃ thunk, src.data.number? off src.layout.thunkSize = some thunk ∧ src.ThunkFor thunk f) ∧
      ThunksAt (off + src.layout.thunkSize) rest

/-- The descriptor of the DLL stands at `off`. Its thunks are those that the loader does not bind,
unless it has none. -/
structure DescriptorAt (off : Nat) (d : ImportedDll) : Prop where
  used : ∃ bytes, src.data.span? off descriptorSize = some bytes ∧ bytes.all (· == 0) = false
  named : src.NameAt (src.data.number (off + 12) 4) 0 d.name
  thunks : ∃ start, src.sections.offset? (if src.data.number off 4 = 0 then
      src.data.number (off + 16) 4 else src.data.number off 4) = some start ∧
    src.ThunksAt start d.functions
  few : (d.functions.length : Int) < src.limits.maxImportFunctions

/-- The descriptors of the DLLs stand one after the other from `off` on, then one of zero bytes. -/
def DescriptorsAt (off : Nat) : List ImportedDll → Prop
  | [] => ∃ bytes, src.data.span? off descriptorSize = some bytes ∧ bytes.all (· == 0) = true
  | d :: rest => src.DescriptorAt off d ∧ DescriptorsAt (off + descriptorSize) rest

end Source

/-- The import directory of the DLLs stands at an address. -/
structure LaidOut (src : Source) (rva : Nat) (dlls : List ImportedDll) : Prop where
  descriptors : ∃ off, src.sections.offset? rva = some off ∧ src.DescriptorsAt off dlls
  few : (dlls.length : Int) < src.limits.maxImportDlls

variable {src : Source}

theorem Source.NameAt.text {rva skip : Nat} {name : String} (h : src.NameAt rva skip name) :
    src.text? rva skip = some name := by
  obtain ⟨off, located, stored⟩ := h.stored
  have read := Bytes.cString?_of_name h.plain stored h.short
  have some_letters : name.isEmpty = false := by simpa using h.plain.nonempty
  rw [Guarded.text?_eq, located, Option.bind_some, read]
  simp [Option.filter, some_letters]

/-- The flag of a thunk leaves room for an ordinal. -/
theorem ordinalFlag_mod (layout : HeaderLayout) : layout.ordinalFlag % 2 ^ 16 = 0 := by
  cases layout <;> rfl

theorem le_ordinalFlag (layout : HeaderLayout) : 0x80000000 ≤ layout.ordinalFlag := by
  cases layout <;> decide

/-- A thunk that stands for a function is not the last one, and is read as that function. -/
theorem Source.ThunkFor.function {thunk : Nat} {f : ImportedFunction} (h : src.ThunkFor thunk f) :
    thunk ≠ 0 ∧ src.function? thunk = some f := by
  have flag := le_ordinalFlag src.layout
  unfold Source.function?
  cases h with
  | @ordinal n small =>
    have flagged : src.layout.ordinalFlag ≤ src.layout.ordinalFlag ||| n := Nat.left_le_or
    have low : (src.layout.ordinalFlag ||| n) % 0x10000 = n := by
      have split := @Nat.or_mod_two_pow src.layout.ordinalFlag n 16
      rw [ordinalFlag_mod, Nat.zero_or] at split
      exact split.trans (Nat.mod_eq_of_lt small)
    refine ⟨by omega, ?_⟩
    rw [if_pos flagged, low]
  | @name _ off hint name used small located hinted named =>
    refine ⟨used, ?_⟩
    rw [if_neg (by omega), Nat.mod_eq_of_lt small]
    simp only [located, Option.bind_eq_bind, Option.bind_some, hinted, named.text]
    rfl

/-- Thunks that are laid out are read up to the zero thunk after them. -/
theorem thunksFrom_laidOut (dll : String) (start : Nat) {off left : Nat}
    {functions : List ImportedFunction} (laid : src.ThunksAt off functions)
    (few : functions.length < left) (r : Reading ImportedFunction) :
    src.thunksFrom dll start off left r = { r with found := r.found ++ functions.toArray } := by
  induction functions generalizing off left r with
  | nil =>
    obtain ⟨left, rfl⟩ := Nat.exists_eq_add_one_of_ne_zero (show left ≠ 0 by omega)
    have last : src.data.number? off src.layout.thunkSize = some 0 := laid
    simp [Source.thunksFrom, last]
  | cons f rest ih =>
    obtain ⟨left, rfl⟩ := Nat.exists_eq_add_one_of_ne_zero (show left ≠ 0 by omega)
    obtain ⟨⟨thunk, read, stands⟩, laid⟩ := laid
    obtain ⟨more, function⟩ := stands.function
    obtain ⟨n, rfl⟩ := Nat.exists_eq_add_one_of_ne_zero more
    have room : rest.length < left := by simpa using few
    rw [Source.thunksFrom, read]
    simp only [function, ih laid room, Reading.keep]
    simp

theorem Source.DescriptorAt.read {off : Nat} {d : ImportedDll} (h : src.DescriptorAt off d)
    (r : Reading ImportedDll) : src.descriptor off r = r.keep d := by
  obtain ⟨start, located, laid⟩ := h.thunks
  have few := h.few
  unfold Source.descriptor
  simp only [h.named.text]
  rw [Source.functions, located]
  dsimp only
  rw [if_neg (by omega), thunksFrom_laidOut d.name start laid (by omega)]
  simp [Reading.keep]

/-- Descriptors that are laid out are read up to the one of zero bytes after them. -/
theorem descriptorsFrom_laidOut {off left : Nat} {dlls : List ImportedDll}
    (laid : src.DescriptorsAt off dlls) (few : dlls.length < left) (r : Reading ImportedDll) :
    src.descriptorsFrom off left r = { r with found := r.found ++ dlls.toArray } := by
  induction dlls generalizing off left r with
  | nil =>
    obtain ⟨left, rfl⟩ := Nat.exists_eq_add_one_of_ne_zero (show left ≠ 0 by omega)
    obtain ⟨bytes, read, zero⟩ := laid
    simp [Source.descriptorsFrom, read, zero]
  | cons d rest ih =>
    obtain ⟨left, rfl⟩ := Nat.exists_eq_add_one_of_ne_zero (show left ≠ 0 by omega)
    obtain ⟨here, laid⟩ := laid
    obtain ⟨bytes, read, used⟩ := here.used
    have room : rest.length < left := by simpa using few
    rw [Source.descriptorsFrom, read]
    simp only [used, Bool.false_eq_true, if_false, here.read, ih laid room, Reading.keep]
    simp

theorem read_laidOut {rva : Nat} {dlls : List ImportedDll} (laid : LaidOut src rva dlls) :
    read src rva = (⟨dlls⟩, []) := by
  obtain ⟨off, located, descriptors⟩ := laid.descriptors
  have few := laid.few
  unfold read
  rw [located]
  dsimp only
  rw [if_neg (by omega), descriptorsFrom_laidOut descriptors (by omega)]
  simp

/-- An import directory that is laid out for some DLLs is read as just these, in order, with nothing
to report; and so it is by the guarded reader, whatever positions it remembers. -/
theorem laid_out_imports_are_read (src : Source) (rva : Nat) (dlls : List ImportedDll)
    (laid : LaidOut src rva dlls) :
    read src rva = (⟨dlls⟩, []) ∧
      Guarded.Yields src.sections (Guarded.imports src rva) (⟨dlls⟩, []) := by
  have read := read_laidOut laid
  have guarded := Guarded.yields_imports src rva
  rw [read] at guarded
  exact ⟨read, guarded⟩

/-- A directory for the DLL `k`, from which ordinal 7 and the function `f` are imported. The
descriptor has bound thunks only, and the section begins at address 0x1000. -/
def smallDirectory : Source where
  data := #[0, 0, 0, 0, 0, 0, 0, 0, 0, 0, 0, 0, 0x28, 0x10, 0, 0, 0x2A, 0x10, 0, 0] ++
    Array.replicate 20 0 ++ #[0x6B, 0, 7, 0, 0, 0x80, 0x36, 0x10, 0, 0, 0, 0, 0, 0, 1, 2, 0x66, 0]
  layout := .pe32
  sections := { sections := [⟨0, ".idata", 58, 0x1000, 58, 0, 0, true⟩], length := 58 }
  limits := {}

theorem small_directory_is_read :
    LaidOut smallDirectory 0x1000 [⟨"k", [⟨none, some 7, none⟩, ⟨some "f", none, some 0x201⟩]⟩] ∧
      read smallDirectory 0x1000 =
        (⟨[⟨"k", [⟨none, some 7, none⟩, ⟨some "f", none, some 0x201⟩]⟩]⟩, []) := by
  have k : smallDirectory.NameAt 0x1028 0 "k" :=
    ⟨⟨by decide, by simp⟩, by decide, 40, by decide, by decide +kernel⟩
  have f : smallDirectory.NameAt 0x1036 2 "f" :=
    ⟨⟨by decide, by simp⟩, by decide, 54, by decide, by decide +kernel⟩
  have seventh : smallDirectory.ThunkFor 0x80000007 ⟨none, some 7, none⟩ :=
    .ordinal (n := 7) (by decide)
  have named : smallDirectory.ThunkFor 0x1036 ⟨some "f", none, some 0x201⟩ :=
    .name (by decide) (by decide) (show _ = some 54 by decide) (by decide) f
  have thunks : smallDirectory.ThunksAt 42 [⟨none, some 7, none⟩, ⟨some "f", none, some 0x201⟩] :=
    ⟨⟨_, by decide, seventh⟩, ⟨_, by decide, named⟩, rfl⟩
  have laid : LaidOut smallDirectory 0x1000
      [⟨"k", [⟨none, some 7, none⟩, ⟨some "f", none, some 0x201⟩]⟩] := {
    descriptors := ⟨0, by decide,
      ⟨⟨_, rfl, by decide +kernel⟩, k, ⟨42, by decide, thunks⟩, by decide⟩,
      _, rfl, by decide +kernel⟩
    few := by decide }
  exact ⟨laid, (laid_out_imports_are_read smallDirectory 0x1000 _ laid).1⟩

end PeFacts.ImportTable
