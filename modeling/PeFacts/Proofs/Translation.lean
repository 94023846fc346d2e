import Mathlib.Data.List.Pairwise
import PeFacts.Image.Query

/-!
# Positions of addresses

`SectionTable.Translates` is the rule for the position of an address, said without the way in which
it is looked up: in memory the address itself, in a file the place that it has in the first section
that holds it. Looking addresses up one after the other, with what was looked up remembered, gives
each one the position of the rule (`yields_mapM`, `offsetAt?_eq_some_iff`), so that two addresses of
one section keep their distance, and addresses of sections with no raw data in common have different
positions.
-/

namespace PeFacts

open Guarded

namespace Section

/-- The address lies in the section, whose own end must not wrap. -/
structure Holds (s : Section) (rva : Int) : Prop where
  start : s.virtualAddress ≤ rva
  stop : rva < s.virtualAddress + s.mappedSize
  narrow : s.virtualAddress + s.mappedSize ≤ 0xFFFFFFFF

/-- The position lies in the raw data of the section. -/
structure Backs (s : Section) (off : Nat) : Prop where
  start : s.rawOffset ≤ off
  stop : off < s.rawOffset + s.rawSize

/-- The sections have no raw data in common. -/
def RawApart (s s' : Section) : Prop := ∀ off, s.Backs off → ¬ s'.Backs off

instance : Std.Symm RawApart := ⟨fun _ _ apart off backs backs' => apart off backs' backs⟩

theorem holds_iff {s : Section} {rva : Int} : s.contains rva = true ↔ s.Holds rva := by
  unfold contains
  cases sum : Address.add32? s.virtualAddress s.mappedSize with
  | none =>
    have wraps := Address.add32?_eq_none_iff.1 sum
    exact iff_of_false Bool.false_ne_true fun h => absurd h.narrow (Nat.not_le.2 wraps)
  | some stop =>
    obtain ⟨narrow, rfl⟩ := Address.add32?_eq_some_iff.1 sum
    simp only [Bool.and_eq_true, decide_eq_true_eq]
    constructor
    · rintro ⟨start, stop⟩
      exact ⟨start, by omega, narrow⟩
    · intro h
      have stop := h.stop
      exact ⟨h.start, by omega⟩

/-- The headers that are read stand at their own places. -/
theorem getElem?_readFrom (data : Bytes) {index off count k : Nat} {s : Section}
    (there : (readFrom data index off count).1[k]? = some s) : s.index = index + k := by
  induction count generalizing index off k with
  | zero => cases there
  | succ count ih =>
    rw [readFrom] at there
    split at there
    · cases k with
      | zero =>
        cases there
        rfl
      | succ k =>
        have later := ih (k := k) there
        omega
    · cases there

theorem getElem?_readAll (data : Bytes) (h : Header) (limit : Int) {k : Nat} {s : Section}
    (there : (readAll data h limit).1[k]? = some s) : s.index = k := by
  rw [← Nat.zero_add k]
  unfold readAll at there
  split at there
  · exact getElem?_readFrom data there
  · exact getElem?_readFrom data there

end Section

namespace SectionTable

/-- `s` is the first section that holds the address. -/
def First (t : SectionTable) (rva : Int) (s : Section) : Prop :=
  s.Holds rva ∧ ∃ before after,
    t.sections = before ++ s :: after ∧ ∀ s' ∈ before, ¬ s'.Holds rva

/-- The rule for the position of an address. In a file the first section that holds the address
decides, and its raw data must have the position; no other section is asked. -/
inductive Translates (t : SectionTable) (rva : Int) (off : Nat) : Prop
  | memory (mapped : t.mapped = true) (same : (off : Int) = rva) (inside : off < t.length)
  | file (mapped : t.mapped = false) (s : Section) (first : t.First rva s)
      (place : (off : Int) = s.rawOffset + (rva - s.virtualAddress)) (backs : s.Backs off)
      (narrow : s.rawOffset + s.rawSize ≤ 0xFFFFFFFF) (inside : off < t.length)

variable {t : SectionTable} {rva rva' : Int} {off off' : Nat} {s : Section}

theorem first_iff : t.sectionFor? rva = some s ↔ t.First rva s := by
  simp only [sectionFor?, List.find?_eq_some_iff_append, Section.holds_iff, First,
    Bool.not_eq_true', Bool.eq_false_iff, ne_eq]

/-- The raw data has the position of an address just when nothing wraps and the buffer reaches so
far. -/
theorem rawPosition?_eq_some_iff {n : Nat} :
    t.rawPosition? s n = some off ↔
      off = s.rawOffset + (n - s.virtualAddress) ∧ s.Backs off ∧
        s.rawOffset + s.rawSize ≤ 0xFFFFFFFF ∧ off < t.length := by
  simp only [rawPosition?, Option.bind_eq_bind, Option.bind_eq_some_iff,
    Address.add32?_eq_some_iff, Address.max32, Bool.and_eq_true, decide_eq_true_eq]
  constructor
  · rintro ⟨_, ⟨_, rfl⟩, _, ⟨narrow, rfl⟩, found⟩
    split at found
    next inside =>
      cases found
      exact ⟨rfl, ⟨Nat.le_add_right _ _, inside.1⟩, narrow, inside.2⟩
    · cases found
  · rintro ⟨rfl, backs, narrow, inside⟩
    have stop := backs.stop
    exact ⟨_, ⟨by omega, rfl⟩, _, ⟨narrow, rfl⟩, if_pos ⟨stop, inside⟩⟩

theorem Translates.inside (h : t.Translates rva off) : off < t.length := by
  cases h <;> assumption

/-- In memory an address is its own position. -/
theorem Translates.address (h : t.Translates rva off) (mapped : t.mapped = true) :
    (off : Int) = rva := by
  cases h with
  | memory _ same => exact same
  | file other => rw [mapped] at other; cases other

/-- The position that is looked up is the one of the rule. -/
theorem offsetAt?_eq_some_iff : t.offsetAt? rva = some off ↔ t.Translates rva off := by
  unfold offsetAt? Bytes.position?
  split
  next below =>
    refine iff_of_false (by simp) fun h => ?_
    cases h with
    | memory _ same => omega
    | file _ s first =>
      have start := first.1.start
      omega
  next here =>
    obtain ⟨n, rfl⟩ := Int.eq_ofNat_of_zero_le (Int.not_lt.1 here)
    rw [Option.bind_some, Int.toNat_natCast]
    unfold offset?
    cases mapped : t.mapped with
    | true =>
      rw [if_pos rfl, Option.ite_none_right_eq_some]
      constructor
      · rintro ⟨inside, same⟩
        cases same
        exact .memory mapped rfl inside
      · intro h
        obtain rfl := Int.ofNat.inj (h.address mapped)
        exact ⟨h.inside, rfl⟩
    | false =>
      rw [if_neg (by decide), Option.bind_eq_some_iff]
      constructor
      · rintro ⟨s, found, read⟩
        have first := first_iff.1 found
        have start := Int.ofNat_le.1 first.1.start
        obtain ⟨place, backs, narrow, inside⟩ := rawPosition?_eq_some_iff.1 read
        exact .file mapped s first (by omega) backs narrow inside
      · intro h
        cases h with
        | memory other => rw [mapped] at other; cases other
        | file _ s first place backs narrow inside =>
          have start := Int.ofNat_le.1 first.1.start
          refine ⟨s, first_iff.2 first, rawPosition?_eq_some_iff.2 ⟨?_, backs, narrow, inside⟩⟩
          omega

/-- In a file the section that decides is the one that is found for the address. -/
theorem Translates.section (h : t.Translates rva off) (mapped : t.mapped = false) :
    ∃ s, t.sectionFor? rva = some s ∧ s.Backs off ∧
      (off : Int) = s.rawOffset + (rva - s.virtualAddress) := by
  cases h with
  | memory other => rw [mapped] at other; cases other
  | file _ s first place backs => exact ⟨s, first_iff.2 first, backs, place⟩

/-- Addresses of one section keep their distance. -/
theorem Translates.distance (h : t.Translates rva off) (h' : t.Translates rva' off')
    (found : t.sectionFor? rva = some s) (found' : t.sectionFor? rva' = some s) :
    (off : Int) - off' = rva - rva' := by
  cases mapped : t.mapped with
  | true =>
    have same := h.address mapped
    have same' := h'.address mapped
    omega
  | false =>
    obtain ⟨_, is, -, place⟩ := h.section mapped
    obtain ⟨_, is', -, place'⟩ := h'.section mapped
    rw [found] at is
    rw [found'] at is'
    cases is
    cases is'
    omega

/-- Where no sections share raw data, no two addresses share a position. -/
theorem Translates.unique (h : t.Translates rva off) (h' : t.Translates rva' off)
    (mapped : t.mapped = false) (apart : t.sections.Pairwise Section.RawApart) : rva = rva' := by
  obtain ⟨s, found, backs, place⟩ := h.section mapped
  obtain ⟨s', found', backs', place'⟩ := h'.section mapped
  have there := List.mem_of_find?_eq_some found
  have there' := List.mem_of_find?_eq_some found'
  have same : s = s' := by
    by_contra other
    exact apart.forall there there' other off backs backs'
  subst same
  omega

end SectionTable

/-! ## Looking addresses up -/

namespace Guarded

variable {α β : Type} {t : SectionTable}

/-- Looks up an address that may be missing or below zero. -/
def lookUp (t : SectionTable) (rva? : Option Int) : Guarded (Option Nat) :=
  locate t (rva?.bind Bytes.position?)

/-- Computations that come to values one by one come to all of them one after the other. -/
theorem Yields.mapM {f : α → Guarded β} {g : α → β} (each : ∀ a, Yields t (f a) (g a))
    (items : List α) : Yields t (items.mapM f) (items.map g) := by
  induction items with
  | nil => exact .pure []
  | cons a rest ih =>
    rw [List.mapM_cons]
    exact (each a).bind (ih.bind (.pure _))

theorem yields_lookUp (t : SectionTable) (rva? : Option Int) :
    Yields t (lookUp t rva?) (rva?.bind t.offsetAt?) := by
  have found := yields_locate t (rva?.bind Bytes.position?)
  rwa [Option.bind_assoc] at found

end Guarded

/-- The place that an image gives for a section is the one where the section stands. -/
theorem Image.getElem?_index {data : Bytes} {mode : ScanMode} {limits : Limits}
    {reader : SignatureReader} {s : Section}
    (there : s ∈ (Image.read data mode limits reader).sections.sections) :
    (Image.read data mode limits reader).sections.sections[s.index]? = some s := by
  obtain ⟨k, at_k⟩ := List.mem_iff_getElem?.1 there
  have place : s.index = k := by
    unfold Image.read at at_k
    split at at_k
    · cases at_k
    · exact Section.getElem?_readAll data _ limits.maxSections at_k
  rw [place]
  exact at_k

namespace SectionTable

/-- What can be relied on when addresses are looked up in a table. -/
structure Dependable (t : SectionTable) : Prop where
  /-- Each answer is a function of its own address, whatever was looked up before. -/
  history : ∀ queries : List (Option Int), ∃ memo,
    (queries.mapM (lookUp t)).run.run .empty =
      (.ok (queries.map fun rva? => rva?.bind t.offsetAt?), memo)
  rule : ∀ rva off, t.offsetAt? rva = some off ↔ t.Translates rva off
  inside : ∀ rva off, t.offsetAt? rva = some off → off < t.length
  /-- In a file the position is in the raw data of the section that is found for the address, also
  by its place. -/
  backed : t.mapped = false → ∀ rva off, t.offsetAt? rva = some off →
    ∃ s, t.sectionFor? rva = some s ∧ s.Backs off ∧
      ∀ i : Image, i.sections = t → i.sectionIndex? (.rva rva) = some s.index ∧
        ∀ data mode limits reader, Image.load data mode limits reader = .ok i →
          t.sections[s.index]? = some s
  distance : ∀ rva rva' off off' s, t.sectionFor? rva = some s → t.sectionFor? rva' = some s →
    t.offsetAt? rva = some off → t.offsetAt? rva' = some off' → (off : Int) - off' = rva - rva'
  injective : t.mapped = false → t.sections.Pairwise Section.RawApart → ∀ rva rva' off,
    t.offsetAt? rva = some off → t.offsetAt? rva' = some off → rva = rva'

/-- Looking addresses up gives the positions of the rule in any order. They are inside the buffer, in
a file inside the raw data of the section that is found for the address; addresses of one section keep
their distance, and in a file whose sections share no raw data different addresses have different
positions. -/
theorem addresses_have_dependable_positions (t : SectionTable) : t.Dependable where
  history queries := by
    obtain ⟨memo, run, -⟩ := Yields.mapM (yields_lookUp t) queries .empty (remembers_empty t)
    exact ⟨memo, run⟩
  rule _ _ := offsetAt?_eq_some_iff
  inside _ _ found := (offsetAt?_eq_some_iff.1 found).inside
  backed mapped rva off found := by
    obtain ⟨s, section_found, backs, -⟩ := (offsetAt?_eq_some_iff.1 found).section mapped
    refine ⟨s, section_found, backs, ?_⟩
    rintro i rfl
    refine ⟨congrArg (Option.map Section.index) section_found, ?_⟩
    intro data mode limits reader loaded
    rw [Image.load_eq] at loaded
    cases loaded
    exact Image.getElem?_index (List.mem_of_find?_eq_some section_found)
  distance _ _ _ _ _ section_found section_found' found found' :=
    (offsetAt?_eq_some_iff.1 found).distance (offsetAt?_eq_some_iff.1 found') section_found
      section_found'
  injective mapped apart _ _ _ found found' :=
    (offsetAt?_eq_some_iff.1 found).unique (offsetAt?_eq_some_iff.1 found') mapped apart

/-- Memory with two sections. The raw data of the first one stood in the file where the second one
is in memory. -/
def crossedMemory : SectionTable where
  sections := [⟨0, "a", 0x1000, 0x2000, 0x1000, 0x1000, 0, true⟩,
    ⟨1, "b", 0x1000, 0x1000, 0x200, 0x400, 0, true⟩]
  length := 0x3000
  mapped := true

/-- In memory the position of an address need not be in the raw data of its section. -/
theorem memory_positions_leave_raw_data :
    crossedMemory.offsetAt? 0x1000 = some 0x1000 ∧
      ¬ ∀ rva off, crossedMemory.offsetAt? rva = some off →
        ∃ s, crossedMemory.sectionFor? rva = some s ∧ s.Backs off := by
  have found : crossedMemory.offsetAt? 0x1000 = some 0x1000 := by decide
  refine ⟨found, fun backed => ?_⟩
  obtain ⟨s, section_found, backs⟩ := backed _ _ found
  have second : crossedMemory.sectionFor? 0x1000 = some crossedMemory.sections[1] := by decide
  rw [second] at section_found
  cases section_found
  exact absurd backs.stop (by decide)

end SectionTable

end PeFacts
