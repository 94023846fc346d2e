import Mathlib.Data.List.Pairwise
import PeFacts.Proofs.Mapping.Import
import PeFacts.Proofs.Translation

/-!
# What memory holds

The loader lays a file image out in memory: the headers at the beginning and the raw data of each
section at the section's address (`Image.memory`). In a file an address is looked up in the sections,
in memory it is the position; where a section backs the bytes, both places are alike
(`Loadable.mirrors`).
-/

namespace PeFacts

open Address

namespace Section

/-- The size of the span that a section takes, be it by its mapped size or by its raw data. -/
def extent (s : Section) : Nat := max s.mappedSize s.rawSize

/-- The address lies in the span of the section. -/
def Spans (s : Section) (rva : Nat) : Prop :=
  s.virtualAddress ≤ rva ∧ rva < s.virtualAddress + s.extent

theorem mappedSize_le (s : Section) : s.mappedSize ≤ s.extent := Nat.le_max_left _ _

theorem rawSize_le (s : Section) : s.rawSize ≤ s.extent := Nat.le_max_right _ _

/-- A section holds the addresses up to its mapped size, if its span does not wrap. -/
theorem contains_iff {s : Section} (room : s.virtualAddress + s.extent ≤ max32) (rva : Nat) :
    s.contains rva ↔ s.virtualAddress ≤ rva ∧ rva < s.virtualAddress + s.mappedSize := by
  have least := s.mappedSize_le
  have narrow : s.virtualAddress + s.mappedSize ≤ max32 := by omega
  rw [holds_iff]
  constructor
  · rintro ⟨start, stop, -⟩
    omega
  · intro inside
    exact ⟨by omega, by omega, narrow⟩

/-- The sections have no address in common. -/
def Apart (s s' : Section) : Prop := ∀ rva, s.Spans rva → ¬ s'.Spans rva

instance : Std.Symm Apart := ⟨fun _ _ apart rva spans spans' => apart rva spans' spans⟩

/-- Memory with the raw data of the section at its address. -/
def place (file memory : Bytes) (s : Section) : Bytes :=
  memory.write s.virtualAddress (file.clamped s.rawOffset s.rawSize)

end Section

/-- The memory that a file image is loaded to: zero bytes, with the headers and the sections. -/
def Image.memory (i : Image) (h : Header) : Bytes :=
  i.sections.sections.foldl (Section.place i.data)
    (Bytes.write (Array.replicate h.sizeOfImage 0) 0 (i.data.clamped 0 h.sizeOfHeaders))

/-- The sections have their raw data in the file and their spans in an image of `size` bytes, behind
the headers and apart from one another. -/
structure Placeable (file : Bytes) (headers size : Nat) (sections : List Section) : Prop where
  raw : ∀ s ∈ sections, s.rawOffset + s.rawSize ≤ file.size
  behind : ∀ s ∈ sections, headers ≤ s.virtualAddress
  room : ∀ s ∈ sections, s.virtualAddress + s.extent ≤ size
  apart : sections.Pairwise Section.Apart

/-- A file image that can be loaded. The headers with the data directories stand in that part of the
file that is loaded at the beginning of memory. -/
structure Image.Loadable (i : Image) (h : Header) : Prop where
  isPe : i.header? = some h
  short : i.data.size ≤ max32
  dos : Header.dosSize ≤ h.sizeOfHeaders
  fixed : h.optionalHeaderOffset + h.layout.directoriesOffset ≤ h.sizeOfHeaders
  declared : h.sectionTableOffset ≤ h.sizeOfHeaders
  headers : h.sizeOfHeaders ≤ min i.data.size h.sizeOfImage
  sections : Placeable i.data h.sizeOfHeaders h.sizeOfImage i.sections.sections

/-! ## Sections in memory -/

namespace Placeable

variable {file memory : Bytes} {headers : Nat} {s : Section} {sections : List Section}

theorem tail {size : Nat} (h : Placeable file headers size (s :: sections)) :
    Placeable file headers size sections where
  raw s' hs := h.raw s' (List.mem_cons_of_mem _ hs)
  behind s' hs := h.behind s' (List.mem_cons_of_mem _ hs)
  room s' hs := h.room s' (List.mem_cons_of_mem _ hs)
  apart := (List.pairwise_cons.1 h.apart).2

section First

variable (h : Placeable file headers memory.size (s :: sections))

include h

theorem size_rawData : (file.clamped s.rawOffset s.rawSize).size = s.rawSize :=
  Bytes.size_clamped (h.raw s List.mem_cons_self)

/-- The raw data of a section fits where its span does. -/
theorem rawData_room :
    s.virtualAddress + (file.clamped s.rawOffset s.rawSize).size ≤ memory.size := by
  have room := h.room s List.mem_cons_self
  have most := s.rawSize_le
  rw [h.size_rawData]
  omega

theorem size_place : (s.place file memory).size = memory.size := Bytes.size_write h.rawData_room

/-- What is left to be placed has room in what memory has become. -/
theorem tail_place : Placeable file headers (s.place file memory).size sections := by
  rw [h.size_place]
  exact h.tail

theorem byte_place_of_not_spans {i : Nat} (outside : ¬ s.Spans i) :
    (s.place file memory).byte i = memory.byte i := by
  have most := s.rawSize_le
  unfold Section.Spans at outside
  rw [Section.place, Bytes.byte_write h.rawData_room, h.size_rawData, if_neg (by omega)]

theorem byte_place_inside {i : Nat} (hi : i < s.rawSize) :
    (s.place file memory).byte (s.virtualAddress + i) = file.byte (s.rawOffset + i) := by
  rw [Section.place, Bytes.byte_write_inside h.rawData_room (by rw [h.size_rawData]; exact hi),
    Bytes.byte_clamped (h.raw s List.mem_cons_self) hi]

end First

theorem size_foldl (h : Placeable file headers memory.size sections) :
    (sections.foldl (Section.place file) memory).size = memory.size := by
  induction sections generalizing memory with
  | nil => rfl
  | cons s rest ih => rw [List.foldl_cons, ih h.tail_place, h.size_place]

/-- Outside the spans of the sections memory stays as it is. -/
theorem byte_foldl_of_not_spans (h : Placeable file headers memory.size sections) {i : Nat}
    (outside : ∀ s ∈ sections, ¬ s.Spans i) :
    (sections.foldl (Section.place file) memory).byte i = memory.byte i := by
  induction sections generalizing memory with
  | nil => rfl
  | cons s rest ih =>
    have later : ∀ s' ∈ rest, ¬ s'.Spans i := by
      intro s' hs
      exact outside s' (List.mem_cons_of_mem s hs)
    rw [List.foldl_cons, ih h.tail_place later]
    exact h.byte_place_of_not_spans (outside s List.mem_cons_self)

/-- The raw data of each section stands at its address: no later section comes over it. -/
theorem byte_foldl_inside (h : Placeable file headers memory.size sections) (hs : s ∈ sections)
    {i : Nat} (hi : i < s.rawSize) :
    (sections.foldl (Section.place file) memory).byte (s.virtualAddress + i) =
      file.byte (s.rawOffset + i) := by
  induction sections generalizing memory with
  | nil => cases hs
  | cons first rest ih =>
    rw [List.foldl_cons]
    rcases List.mem_cons.1 hs with rfl | later
    · have spans : s.Spans (s.virtualAddress + i) := by
        have most := s.rawSize_le
        exact ⟨Nat.le_add_right _ _, by omega⟩
      have apart : ∀ s' ∈ rest, ¬ s'.Spans (s.virtualAddress + i) := by
        intro s' hs'
        exact (List.pairwise_cons.1 h.apart).1 s' hs' _ spans
      rw [h.tail_place.byte_foldl_of_not_spans apart]
      exact h.byte_place_inside hi
    · exact ih h.tail_place later

end Placeable

section Headers

variable {file : Bytes} {headers size : Nat} (le : headers ≤ min file.size size)

include le

theorem headers_room :
    0 + (file.clamped 0 headers).size ≤ (Array.replicate size (0 : UInt8)).size := by
  rw [Bytes.size_clamped (by omega), Array.size_replicate]
  omega

theorem size_write_headers :
    (Bytes.write (Array.replicate size 0) 0 (file.clamped 0 headers)).size = size := by
  rw [Bytes.size_write (headers_room le), Array.size_replicate]

theorem byte_write_headers {i : Nat} (hi : i < headers) :
    (Bytes.write (Array.replicate size 0) 0 (file.clamped 0 headers)).byte i = file.byte i := by
  have room : 0 + headers ≤ file.size := by omega
  have taken : i < (file.clamped 0 headers).size := by rwa [Bytes.size_clamped room]
  have inside := Bytes.byte_write_inside (headers_room le) taken
  rw [Nat.zero_add] at inside
  rw [inside, Bytes.byte_clamped room hi, Nat.zero_add]

end Headers

namespace Image.Loadable

variable {i : Image} {h : Header} (loadable : i.Loadable h)

include loadable

theorem placeable : Placeable i.data h.sizeOfHeaders
    (Bytes.write (Array.replicate h.sizeOfImage 0) 0 (i.data.clamped 0 h.sizeOfHeaders)).size
    i.sections.sections := by
  rw [size_write_headers loadable.headers]
  exact loadable.sections

theorem size_memory : (i.memory h).size = h.sizeOfImage := by
  rw [Image.memory, loadable.placeable.size_foldl, size_write_headers loadable.headers]

/-- Memory begins with the headers. -/
theorem headers_alike : i.data.Alike (i.memory h) 0 0 h.sizeOfHeaders where
  inside := by have headers := loadable.headers; omega
  inside' := by have headers := loadable.headers; rw [loadable.size_memory]; omega
  bytes k hk := by
    have outside : ∀ s ∈ i.sections.sections, ¬ s.Spans k := by
      intro s hs spans
      have behind := loadable.sections.behind s hs
      have start := spans.1
      omega
    rw [Nat.zero_add, Image.memory, loadable.placeable.byte_foldl_of_not_spans outside,
      byte_write_headers loadable.headers hk]

/-- The raw data of a section stands at its address. -/
theorem section_alike {s : Section} (hs : s ∈ i.sections.sections) :
    i.data.Alike (i.memory h) s.rawOffset s.virtualAddress s.rawSize where
  inside := loadable.sections.raw s hs
  inside' := by
    have room := loadable.sections.room s hs
    have most := s.rawSize_le
    rw [loadable.size_memory]
    omega
  bytes k hk := (loadable.placeable.byte_foldl_inside hs hk).symm

/-! ## Positions -/

/-- Only one section spans an address. -/
theorem eq_of_spans {s s' : Section} (hs : s ∈ i.sections.sections)
    (hs' : s' ∈ i.sections.sections) {rva : Nat} (spans : s.Spans rva) (spans' : s'.Spans rva) :
    s = s' := by
  by_contra other
  exact loadable.sections.apart.forall hs hs' other rva spans spans'

/-- The section that is found for an address is the one that holds it. -/
theorem sectionFor?_eq (small : h.sizeOfImage ≤ max32) {s : Section}
    (hs : s ∈ i.sections.sections) {rva : Nat} (holds : s.contains rva) :
    i.sections.sectionFor? rva = some s := by
  have spans {s : Section} (hs : s ∈ i.sections.sections) (holds : s.contains rva) :
      s.Spans rva := by
    have room : s.virtualAddress + s.extent ≤ max32 :=
      Nat.le_trans (loadable.sections.room s hs) small
    have least := s.mappedSize_le
    obtain ⟨start, stop⟩ := (Section.contains_iff room rva).1 holds
    exact ⟨start, by omega⟩
  unfold SectionTable.sectionFor?
  cases first : i.sections.sections.find? (·.contains rva) with
  | none => exact absurd holds (List.find?_eq_none.1 first s hs)
  | some s' =>
    have there := List.mem_of_find?_eq_some first
    have holds' := List.find?_some first
    rw [loadable.eq_of_spans hs there (spans hs holds) (spans there holds')]

theorem rawPosition?_eq (length : i.sections.length = i.data.size) {s : Section}
    (hs : s ∈ i.sections.sections) {rva : Nat} (start : s.virtualAddress ≤ rva)
    (stop : rva < s.virtualAddress + s.rawSize) :
    i.sections.rawPosition? s rva = some (s.rawOffset + (rva - s.virtualAddress)) := by
  have raw := loadable.sections.raw s hs
  have short := loadable.short
  have narrow : s.rawOffset + s.rawSize ≤ max32 := by omega
  exact SectionTable.rawPosition?_eq_some_iff.2 ⟨rfl, ⟨by omega, by omega⟩, narrow, by omega⟩

/-- In a file the position of an address that a section backs is in the raw data of that section. -/
theorem offset?_file (small : h.sizeOfImage ≤ max32) (inFile : i.sections.mapped = false)
    (length : i.sections.length = i.data.size) {s : Section} (hs : s ∈ i.sections.sections)
    {rva : Nat} (start : s.virtualAddress ≤ rva)
    (stop : rva < s.virtualAddress + min s.mappedSize s.rawSize) :
    i.sections.offset? rva = some (s.rawOffset + (rva - s.virtualAddress)) := by
  have room : s.virtualAddress + s.extent ≤ max32 :=
    Nat.le_trans (loadable.sections.room s hs) small
  have holds : s.contains rva := (Section.contains_iff room rva).2 ⟨start, by omega⟩
  rw [SectionTable.offset?, inFile, loadable.sectionFor?_eq small hs holds]
  exact loadable.rawPosition?_eq length hs start (by omega)

/-- Where a section backs the bytes at an address, its position in the file and the address itself in
memory are places that are alike. -/
theorem mirrors (small : h.sizeOfImage ≤ max32) (inFile : i.sections.mapped = false)
    (length : i.sections.length = i.data.size) {limits : Limits} (forward : 0 ≤ limits.maxNameLength)
    {t : SectionTable} (mapped : t.mapped = true) (length' : t.length = h.sizeOfImage) :
    ImportTable.Source.Mirrors ⟨i.data, h.layout, i.sections, limits⟩
      ⟨i.memory h, h.layout, t, limits⟩ i.sections.sections where
  layout := rfl
  limits := rfl
  forward := forward
  placed := by
    rintro rva size ⟨s, hs, start, stop⟩ positive
    have room := loadable.sections.room s hs
    have most := s.rawSize_le
    have located : t.offset? rva = some rva := by
      rw [SectionTable.offset?, if_pos mapped, length', if_pos (by omega)]
    have alike := (loadable.section_alike hs).within (i := rva - s.virtualAddress) (n := size)
      (by omega)
    rw [Nat.add_sub_of_le start] at alike
    exact ⟨_, loadable.offset?_file small inFile length hs start (by omega), located, alike⟩

end Image.Loadable

end PeFacts
