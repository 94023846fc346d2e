import Mathlib.Data.List.Forall2
import PeFacts.Proofs.Truncation.Buffer
import PeFacts.Section

/-!
# Headers and sections of a truncated buffer

The fixed part of the headers is wholly there or the buffer is no image. Of the tables after it a
truncated buffer has the first entries, and these do not change, except that a section may come to
have all its raw data.
-/

namespace PeFacts

variable {data : Bytes} (rest : Bytes)

/-- Two tables that agree where the shorter one has entries: the shorter one comes first. -/
theorem map_range_prefix {α : Type} {f g : Nat → α} {m n : Nat} (le : m ≤ n)
    (same : ∀ i < m, f i = g i) : (List.range m).map f <+: (List.range n).map g := by
  obtain ⟨k, rfl⟩ := Nat.exists_eq_add_of_le le
  rw [List.range_add, List.map_append]
  have first : (List.range m).map f = (List.range m).map g :=
    List.map_congr_left fun i hi => same i (List.mem_range.1 hi)
  rw [first]
  exact List.prefix_append _ _

namespace Header

theorem directoryTable_prefix {off count longer : Nat} (inside : off + 8 * count ≤ data.size)
    (le : count ≤ longer) :
    directoryTable data off count <+: directoryTable (data ++ rest) off longer := by
  refine map_range_prefix le fun i hi => ?_
  rw [Bytes.number_append rest (by omega), Bytes.number_append rest (by omega)]

/-- More data directories are inside the whole buffer, never fewer. -/
theorem directoryCount_append (optional size : Nat) (layout : HeaderLayout) (announced : Nat) :
    directoryCount data optional size layout announced ≤
      directoryCount (data ++ rest) optional size layout announced := by
  simp only [directoryCount, Array.size_append]
  omega

theorem directoryCount_inside (optional size : Nat) (layout : HeaderLayout) (announced : Nat)
    (fixed : optional + layout.directoriesOffset ≤ data.size) :
    optional + layout.directoriesOffset +
      8 * directoryCount data optional size layout announced ≤ data.size := by
  simp only [directoryCount]
  omega

/-- Headers whose scalar fields are the same, and whose data directories begin with those of the
first. -/
structure Extends (h h' : Header) : Prop where
  fields : h' = { h with directories := h'.directories }
  directories : h.directories <+: h'.directories

/-- Inside the fixed part no field changes. -/
theorem decode_extends {eLfanew : Nat} {layout : HeaderLayout}
    (room : eLfanew + 24 + layout.directoriesOffset ≤ data.size) :
    Extends (decode data eLfanew layout) (decode (data ++ rest) eLfanew layout) := by
  have fixed : 0x60 ≤ layout.directoriesOffset := by cases layout <;> decide
  have count : layout.directoryCountOffset + 4 = layout.directoriesOffset := by cases layout <;> rfl
  have base : layout.imageBaseOffset + layout.imageBaseSize ≤ 0x60 := by cases layout <;> decide
  constructor
  · simp (disch := omega) only [decode, versionAt, coffSize, checksumFieldOffset,
      Bytes.number_append]
  · simp (disch := omega) only [decode, coffSize, Bytes.number_append]
    exact directoryTable_prefix rest (directoryCount_inside _ _ _ _ room)
      (directoryCount_append rest _ _ _ _)

/-- The buffer is an image whose headers begin at `eLfanew` and have this layout. -/
structure Accepted (data : Bytes) (eLfanew : Nat) (layout : HeaderLayout) : Prop where
  dos : dosSize ≤ data.size
  dosLetters : data.matchesAt dosSignature 0
  located : data.number eLfanewOffset 4 = eLfanew
  ntLetters : data.matchesAt ntSignature eLfanew
  selected : HeaderLayout.ofMagic (data.number (eLfanew + 24) 2) = layout
  fixed : eLfanew + 24 + layout.directoriesOffset ≤ data.size

theorem Accepted.of_read {h : Header} {problems : List Problem}
    (found : Header.read data = .ok (h, problems)) :
    ∃ eLfanew layout, Accepted data eLfanew layout ∧ h = decode data eLfanew layout := by
  rw [read_eq] at found
  dsimp only at found
  split at found
  · cases found
  next dos =>
    iterate 5
      split at found
      · cases found
    next _ nt _ _ fixed =>
      simp only [Bool.or_eq_true, Bool.not_eq_true', not_or, Bool.not_eq_false, Bytes.holds_iff]
        at dos nt fixed
      cases found
      exact ⟨_, _, ⟨by omega, dos.2, rfl, nt, rfl, fixed⟩, rfl⟩

theorem Accepted.read {eLfanew : Nat} {layout : HeaderLayout} (h : Accepted data eLfanew layout) :
    Header.read data =
      .ok (decode data eLfanew layout, (decode data eLfanew layout).problems data) := by
  obtain ⟨dos, dosLetters, rfl, ntLetters, rfl, fixed⟩ := h
  generalize hl : HeaderLayout.ofMagic _ = layout at fixed
  have large : 0x60 ≤ layout.directoriesOffset := by cases layout <;> decide
  have room (off size : Nat) (h : off + size ≤ data.size) : data.holds off size = true :=
    Bytes.holds_iff.2 h
  simp only [dosSize] at dos
  simp (disch := omega) only [read_eq, dosSize, coffSize, dosLetters, ntLetters, room, hl,
    Nat.add_assoc, Nat.reduceAdd, Bool.not_true, Bool.or_false, Bool.false_eq_true, if_false]

theorem Accepted.append {eLfanew : Nat} {layout : HeaderLayout} (h : Accepted data eLfanew layout) :
    Accepted (data ++ rest) eLfanew layout := by
  have large : 0x60 ≤ layout.directoriesOffset := by cases layout <;> decide
  have dos : 64 ≤ data.size := h.dos
  have fixed := h.fixed
  have size : (data ++ rest).size = data.size + rest.size := Array.size_append
  constructor
  · exact Nat.le_trans h.dos (by omega)
  · exact Bytes.matchesAt_append rest h.dosLetters
  · rw [Bytes.number_append rest (by simp only [eLfanewOffset]; omega)]
    exact h.located
  · exact Bytes.matchesAt_append rest h.ntLetters
  · rw [Bytes.number_append rest (by omega)]
    exact h.selected
  · omega

/-- The headers of a truncated image are those of the whole image. -/
theorem read_extends {h : Header} {problems : List Problem}
    (found : Header.read data = .ok (h, problems)) :
    ∃ h' problems', Header.read (data ++ rest) = .ok (h', problems') ∧ Extends h h' := by
  obtain ⟨eLfanew, layout, accepted, rfl⟩ := Accepted.of_read found
  exact ⟨_, _, (accepted.append rest).read, decode_extends rest accepted.fixed⟩

end Header

/-! ## Sections -/

/-- The same section, which may have all its raw data only in the whole buffer. -/
structure Section.Extends (s s' : Section) : Prop where
  fields : s' = { s with rawInBounds := s'.rawInBounds }
  rawInBounds : s.rawInBounds → s'.rawInBounds

/-- The sections of the truncated buffer are the first sections of the whole buffer. -/
def SectionsExtend (sections sections' : List Section) : Prop :=
  ∃ first, first <+: sections' ∧ List.Forall₂ Section.Extends sections first

namespace Section

theorem decode_extends {off : Nat} (room : off + headerSize ≤ data.size) (index : Nat) :
    Extends (decode data index off) (decode (data ++ rest) index off) := by
  have fields : off + 40 ≤ data.size := room
  constructor
  · simp (disch := omega) only [decode, Bytes.number_append, Bytes.extract_append]
  · simp (disch := omega) only [decode, Bytes.number_append, Array.size_append]
    cases Address.add32? (data.number (off + 20) 4) (data.number (off + 16) 4) with
    | none => exact id
    | some stop =>
      simp only [Option.any_some, decide_eq_true_eq]
      omega

theorem readFrom_extends (index off count : Nat) :
    SectionsExtend (readFrom data index off count).1
      (readFrom (data ++ rest) index off count).1 := by
  induction count generalizing index off with
  | zero => exact ⟨[], List.nil_prefix, .nil⟩
  | succ count ih =>
    rw [readFrom]
    split
    next room =>
      obtain ⟨first, whole, same⟩ := ih (index + 1) (off + headerSize)
      rw [readFrom, if_pos (Bytes.holds_append rest room)]
      exact ⟨_ :: first, List.cons_prefix_cons.2 ⟨rfl, whole⟩,
        .cons (decode_extends rest (Bytes.holds_iff.1 room) index) same⟩
    · exact ⟨[], List.nil_prefix, .nil⟩

/-- The section table has the same place and the same announced length in both buffers. -/
theorem readAll_extends {h h' : Header} (headers : h.Extends h') (limit : Int) :
    SectionsExtend (readAll data h limit).1 (readAll (data ++ rest) h' limit).1 := by
  have count : h'.numberOfSections = h.numberOfSections := by rw [headers.fields]
  have table : h'.sectionTableOffset = h.sectionTableOffset := by rw [headers.fields]; rfl
  unfold readAll
  rw [count, table]
  split
  · exact readFrom_extends rest _ _ _
  · exact readFrom_extends rest _ _ _

end Section

/-! ## Positions -/

namespace SectionTable

/-- The sections of the truncated buffer come first, and the whole buffer is longer. -/
structure Extends (t t' : SectionTable) : Prop where
  sections : SectionsExtend t.sections t'.sections
  length : t.length ≤ t'.length
  mapped : t'.mapped = t.mapped

variable {t t' : SectionTable}

theorem find_extends {sections first : List Section} (same : List.Forall₂ Section.Extends sections first)
    {rva : Int} {s : Section} (found : sections.find? (·.contains rva) = some s) :
    ∃ s', first.find? (·.contains rva) = some s' ∧ s.Extends s' := by
  induction same with
  | nil => cases found
  | @cons a a' sections first head tail ih =>
    have spans : a'.contains rva = a.contains rva := by rw [head.fields]; rfl
    rw [List.find?_cons] at found ⊢
    rw [spans]
    cases holds : a.contains rva with
    | true =>
      rw [holds] at found
      cases found
      exact ⟨a', rfl, head⟩
    | false =>
      rw [holds] at found
      exact ih found

theorem Extends.sectionFor (h : t.Extends t') {rva : Int} {s : Section}
    (found : t.sectionFor? rva = some s) : ∃ s', t'.sectionFor? rva = some s' ∧ s.Extends s' := by
  obtain ⟨first, ⟨others, whole⟩, same⟩ := h.sections
  obtain ⟨s', found', kept⟩ := find_extends same found
  refine ⟨s', ?_, kept⟩
  rw [sectionFor?, ← whole, List.find?_append, found']
  rfl

theorem Extends.rawPosition (h : t.Extends t') {s s' : Section} (same : s.Extends s') {rva off : Nat}
    (found : t.rawPosition? s rva = some off) : t'.rawPosition? s' rva = some off := by
  have longer := h.length
  rw [same.fields]
  unfold rawPosition? at found ⊢
  obtain ⟨position, located, found⟩ := Option.bind_eq_some_iff.1 found
  obtain ⟨stop, stops, found⟩ := Option.bind_eq_some_iff.1 found
  split at found
  next inside =>
    simp only [Bool.and_eq_true, decide_eq_true_eq] at inside
    have inside' : position < stop && position < t'.length := by
      simp only [Bool.and_eq_true, decide_eq_true_eq]
      omega
    simp only [located, stops, Option.bind_eq_bind, Option.bind_some, inside', if_true]
    exact found
  · cases found

/-- An address that has a position in the truncated buffer has it in the whole one. -/
theorem Extends.persists_offset (h : t.Extends t') (rva : Nat) :
    Persists (t.offset? rva) (t'.offset? rva) := by
  have longer := h.length
  unfold offset?
  rw [h.mapped]
  split
  · refine .of_imp fun off found => ?_
    split at found
    · rw [if_pos (by omega)]
      exact found
    · cases found
  · refine .of_imp fun off found => ?_
    obtain ⟨s, holds, position⟩ := Option.bind_eq_some_iff.1 found
    obtain ⟨s', holds', same⟩ := h.sectionFor holds
    rw [holds']
    exact h.rawPosition same position

end SectionTable

end PeFacts
