import PeFacts.Import
import PeFacts.Proofs.Mapping.Buffer

/-!
# Imports in two views

An import directory is read from a file and from memory alike if each of its parts, with what ends it,
stands in the raw data of one section: `ImportsBacked`. The two sources then find each part at places
that are alike (`Source.Mirrors`), so every reader gives the same, the problems included.
-/

namespace PeFacts

/-- The bytes at an address stand in the raw data of one section, as far as it is mapped. -/
def Backed (sections : List Section) (rva size : Nat) : Prop :=
  ∃ s ∈ sections, s.virtualAddress ≤ rva ∧
    rva + size ≤ s.virtualAddress + min s.mappedSize s.rawSize

namespace ImportTable

section Backed

variable (memory : Bytes) (layout : HeaderLayout) (sections : List Section)

/-- A text with its zero byte, after `skip` other bytes. -/
def TextBacked (rva skip : Nat) : Prop :=
  ∃ length, Backed sections rva (skip + length + 1) ∧ memory.byte (rva + (skip + length)) = 0

/-- The name that a thunk stands for, if it stands for one, with its hint. -/
def ThunkBacked (thunk : Nat) : Prop :=
  thunk ≠ 0 → thunk < layout.ordinalFlag → TextBacked memory sections (thunk % 0x80000000) 2

/-- An array of thunks with the one that ends it. -/
def ThunksBacked (rva : Nat) : Prop :=
  ∃ count, Backed sections rva (layout.thunkSize * (count + 1)) ∧
    memory.number (rva + layout.thunkSize * count) layout.thunkSize = 0 ∧
    ∀ i < count, ThunkBacked memory layout sections
      (memory.number (rva + layout.thunkSize * i) layout.thunkSize)

/-- What the descriptor at an address leads to: the name of the DLL and the array of thunks. -/
structure DescriptorBacked (rva : Nat) : Prop where
  name : TextBacked memory sections (memory.number (rva + 12) 4) 0
  thunks : ThunksBacked memory layout sections
    (if memory.number rva 4 = 0 then memory.number (rva + 16) 4 else memory.number rva 4)

/-- An array of descriptors with the one that ends it, and what the others lead to. -/
def ImportsBacked (rva : Nat) : Prop :=
  ∃ count, Backed sections rva (descriptorSize * (count + 1)) ∧
    (memory.clamped (rva + descriptorSize * count) descriptorSize).all (· == 0) ∧
    ∀ i < count, DescriptorBacked memory layout sections (rva + descriptorSize * i)

end Backed

/-- Two sources read alike what the sections back. In the second one addresses are positions. -/
structure Source.Mirrors (src src' : Source) (sections : List Section) : Prop where
  layout : src'.layout = src.layout
  limits : src'.limits = src.limits
  forward : 0 ≤ src.limits.maxNameLength
  placed : ∀ {rva size}, Backed sections rva size → 0 < size →
    ∃ off, src.sections.offset? rva = some off ∧ src'.sections.offset? rva = some rva ∧
      src.data.Alike src'.data off rva size

namespace Source.Mirrors

variable {src src' : Source} {sections : List Section} (h : src.Mirrors src' sections)

include h

theorem text?_eq {rva skip : Nat} (backed : TextBacked src'.data sections rva skip) :
    src.text? rva skip = src'.text? rva skip := by
  obtain ⟨length, room, zero⟩ := backed
  obtain ⟨off, located, located', alike⟩ := h.placed room (by omega)
  have after : src.data.Alike src'.data (off + skip) (rva + skip) (length + 1) :=
    alike.within (by omega)
  have same : src.data.cString? (off + skip) src.limits.maxNameLength =
      src'.data.cString? (rva + skip) src.limits.maxNameLength :=
    after.cString?_eq (k := length) (by omega) (by rw [Nat.add_assoc]; exact zero) h.forward
  unfold Source.text?
  rw [located, located', h.limits]
  simp only [Option.bind_eq_bind, Option.bind_some, same]

theorem function?_eq {thunk : Nat} (other : thunk ≠ 0)
    (backed : ThunkBacked src'.data src.layout sections thunk) :
    src.function? thunk = src'.function? thunk := by
  unfold Source.function?
  rw [h.layout]
  split
  · rfl
  next named =>
    have backed := backed other (Nat.lt_of_not_le named)
    have text := h.text?_eq backed
    obtain ⟨length, room, -⟩ := backed
    obtain ⟨off, located, located', alike⟩ := h.placed room (by omega)
    have hint : src.data.u16? off = src'.data.u16? (thunk % 0x80000000) :=
      alike.number?_eq (by omega)
    simp only [Option.bind_eq_bind, located, located', Option.bind_some, hint, text]

theorem thunksFrom_eq {off rva count : Nat}
    (alike : src.data.Alike src'.data off rva (src.layout.thunkSize * (count + 1)))
    (last : src'.data.number (rva + src.layout.thunkSize * count) src.layout.thunkSize = 0)
    (backed : ∀ i < count, ThunkBacked src'.data src.layout sections
      (src'.data.number (rva + src.layout.thunkSize * i) src.layout.thunkSize))
    (dll : String) (start start' left : Nat) (r : Reading ImportedFunction) :
    src.thunksFrom dll start off left r = src'.thunksFrom dll start' rva left r := by
  induction left generalizing off rva count r with
  | zero => rw [Source.thunksFrom, Source.thunksFrom, h.limits]
  | succ left ih =>
    have first := alike.first (n := src.layout.thunkSize) (by rw [Nat.mul_add]; omega)
    rw [Source.thunksFrom, Source.thunksFrom, h.layout, first.number?_eq (Nat.le_refl _),
      Bytes.number?, if_pos (Bytes.holds_iff.2 first.inside')]
    cases thunk : src'.data.number rva src.layout.thunkSize with
    | zero => rfl
    | succ n =>
      cases count with
      | zero =>
        rw [Nat.mul_zero, Nat.add_zero, thunk] at last
        cases last
      | succ count =>
        have function : src.function? (n + 1) = src'.function? (n + 1) := by
          refine h.function?_eq (Nat.succ_ne_zero n) ?_
          rw [← thunk]
          exact backed 0 (by omega)
        have rest (r : Reading ImportedFunction) :=
          ih alike.next_item (by rw [Bytes.item_succ]; exact last)
            (fun i hi => by rw [Bytes.item_succ]; exact backed (i + 1) (by omega)) r
        simp only [function, rest]

theorem functions_eq {rva : Nat} (backed : ThunksBacked src'.data src.layout sections rva)
    (dll : String) : src.functions dll rva = src'.functions dll rva := by
  obtain ⟨count, room, last, thunks⟩ := backed
  have wide : 0 < src.layout.thunkSize := by cases src.layout <;> decide
  obtain ⟨off, located, located', alike⟩ := h.placed room (Nat.mul_pos wide (by omega))
  unfold Source.functions
  rw [located, located', h.limits]
  dsimp only
  rw [h.thunksFrom_eq alike last thunks dll off rva]

theorem descriptor_eq {off rva : Nat} (alike : src.data.Alike src'.data off rva descriptorSize)
    (backed : DescriptorBacked src'.data src.layout sections rva) (r : Reading ImportedDll) :
    src.descriptor off r = src'.descriptor rva r := by
  have field (i : Nat) (room : i + 4 ≤ descriptorSize) :
      src.data.number (off + i) 4 = src'.data.number (rva + i) 4 :=
    (alike.within room).number_eq (Nat.le_refl 4)
  have unbound := field 0 (by decide)
  have name := field 12 (by decide)
  have bound := field 16 (by decide)
  rw [Nat.add_zero, Nat.add_zero] at unbound
  unfold Source.descriptor
  dsimp only
  rw [unbound, name, bound, h.text?_eq backed.name]
  cases src'.text? (src'.data.number (rva + 12) 4) with
  | none => rfl
  | some dll =>
    dsimp only
    rw [h.functions_eq backed.thunks dll]

theorem descriptorsFrom_eq {off rva count : Nat}
    (alike : src.data.Alike src'.data off rva (descriptorSize * (count + 1)))
    (last : (src'.data.clamped (rva + descriptorSize * count) descriptorSize).all (· == 0))
    (backed : ∀ i < count, DescriptorBacked src'.data src.layout sections (rva + descriptorSize * i))
    (left : Nat) (r : Reading ImportedDll) :
    src.descriptorsFrom off left r = src'.descriptorsFrom rva left r := by
  induction left generalizing off rva count r with
  | zero => rw [Source.descriptorsFrom, Source.descriptorsFrom, h.limits]
  | succ left ih =>
    have first := alike.first (n := descriptorSize) (by rw [Nat.mul_add]; omega)
    have bytes := Bytes.span?_eq_some_iff.2 ⟨first.inside', rfl⟩
    rw [Source.descriptorsFrom, Source.descriptorsFrom, first.span?_eq, bytes]
    dsimp only
    split
    · rfl
    next other =>
      cases count with
      | zero => exact absurd last other
      | succ count =>
        rw [h.descriptor_eq first (backed 0 (by omega))]
        exact ih alike.next_item (by rw [Bytes.item_succ]; exact last)
          (fun i hi => by rw [Bytes.item_succ]; exact backed (i + 1) (by omega)) _

/-- An import directory that the sections back is read alike. -/
theorem read_eq {rva : Nat} (backed : ImportsBacked src'.data src.layout sections rva) :
    read src rva = read src' rva := by
  obtain ⟨count, room, last, descriptors⟩ := backed
  obtain ⟨off, located, located', alike⟩ := h.placed room (Nat.mul_pos (by decide) (by omega))
  unfold read
  rw [located, located', h.limits]
  dsimp only
  rw [h.descriptorsFrom_eq alike last descriptors]

end Source.Mirrors

end ImportTable

end PeFacts
