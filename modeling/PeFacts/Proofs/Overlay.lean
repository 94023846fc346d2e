import Mathlib.Order.Bounds.Basic
import Mathlib.Order.MinMax
import PeFacts.Proofs.Session
import PeFacts.Proofs.Stored.Field
import PeFacts.Proofs.Translation

/-!
# What follows the sections

The overlay of a file is what follows the section data that reaches furthest. A section counts if it
has raw data whose end does not wrap (`Section.Counts`), and it counts up to its own end, cut at the
end of the buffer (`lt_rawEnd_iff`). Where the sections that count begin inside the buffer, this is
the end of the last byte that one of them has there, so the overlay is all that comes after that byte:
`overlay_follows_section_bytes`.
-/

namespace PeFacts

namespace Section

/-- The section has raw data, whose end must not wrap. -/
structure Counts (s : Section) : Prop where
  some : 0 < s.rawSize
  narrow : s.rawOffset + s.rawSize ≤ 0xFFFFFFFF

instance (s : Section) : Decidable s.Counts :=
  decidable_of_iff (0 < s.rawSize ∧ s.rawOffset + s.rawSize ≤ 0xFFFFFFFF)
    ⟨fun h => ⟨h.1, h.2⟩, fun h => ⟨h.some, h.narrow⟩⟩

instance (s : Section) (off : Nat) : Decidable (s.Backs off) :=
  decidable_of_iff (s.rawOffset ≤ off ∧ off < s.rawOffset + s.rawSize)
    ⟨fun h => ⟨h.1, h.2⟩, fun h => ⟨h.start, h.stop⟩⟩

end Section

/-- What follows the greatest of some positions of a buffer, as its position and size; both are zero
when nothing does. -/
def Follows (positions : Set Nat) (length : Nat) (overlay : Nat × Nat) : Prop :=
  positions = ∅ ∧ overlay = (0, 0) ∨
    ∃ last, IsGreatest positions last ∧
      overlay = if last + 1 = length then (0, 0) else (last + 1, length - (last + 1))

namespace SectionTable

variable {t : SectionTable} {n : Nat} {s : Section}

/-- The positions in the buffer that are in the raw data of a section that counts. -/
def countedBytes (t : SectionTable) : Set Nat :=
  { off | off < t.length ∧ ∃ s ∈ t.sections, s.Counts ∧ s.Backs off }

/-- The table without the sections that do not count. -/
def counted (t : SectionTable) : SectionTable :=
  { t with sections := t.sections.filter fun s => s.Counts }

theorem lt_rawStop_iff :
    n < t.rawStop s ↔ n < t.length ∧ s.Counts ∧ n < s.rawOffset + s.rawSize := by
  unfold rawStop
  by_cases none : s.rawSize = 0
  · rw [if_pos none]
    refine iff_of_false (Nat.not_lt_zero n) fun h => ?_
    have some := h.2.1.some
    omega
  · rw [if_neg none]
    cases sum : Address.add32? s.rawOffset s.rawSize with
    | none =>
      have wraps := Address.add32?_eq_none_iff.1 sum
      exact iff_of_false (Nat.not_lt_zero n) fun h => absurd h.2.1.narrow (Nat.not_le.2 wraps)
    | some stop =>
      obtain ⟨narrow, rfl⟩ := Address.add32?_eq_some_iff.1 sum
      have counts : s.Counts := ⟨by omega, narrow⟩
      simp only [counts, true_and]
      omega

/-- The data reaches past a position just when that of some section does. -/
theorem lt_rawEnd_iff :
    n < t.rawEnd ↔ n < t.length ∧ ∃ s ∈ t.sections, s.Counts ∧ n < s.rawOffset + s.rawSize := by
  have furthest (sections : List Section) (stop : Nat) :
      n < sections.foldl (fun stop s => max stop (t.rawStop s)) stop ↔
        n < stop ∨ ∃ s ∈ sections, n < t.rawStop s := by
    induction sections generalizing stop with
    | nil => simp
    | cons s rest ih =>
      simp only [List.foldl_cons, ih, List.mem_cons, exists_eq_or_imp, lt_max_iff, or_assoc]
  rw [rawEnd, furthest, or_iff_right (Nat.not_lt_zero n)]
  simp only [lt_rawStop_iff]
  constructor
  · rintro ⟨s, there, inside, counts⟩
    exact ⟨inside, s, there, counts⟩
  · rintro ⟨inside, s, there, counts⟩
    exact ⟨s, there, inside, counts⟩

theorem lt_rawEnd_of_mem (there : n ∈ t.countedBytes) : n < t.rawEnd := by
  obtain ⟨inside, s, there, counts, backs⟩ := there
  exact lt_rawEnd_iff.2 ⟨inside, s, there, counts, backs.stop⟩

theorem rawEnd_le (t : SectionTable) : t.rawEnd ≤ t.length :=
  Nat.le_of_not_lt fun past => Nat.lt_irrefl _ (lt_rawEnd_iff.1 past).1

/-- Sections that do not count make no difference. -/
theorem rawEnd_counted (t : SectionTable) : t.counted.rawEnd = t.rawEnd := by
  refine eq_of_forall_lt_iff fun n => ?_
  simp only [lt_rawEnd_iff, counted, List.mem_filter, decide_eq_true_eq]
  constructor
  · rintro ⟨inside, s, ⟨there, -⟩, counts⟩
    exact ⟨inside, s, there, counts⟩
  · rintro ⟨inside, s, there, counts, stop⟩
    exact ⟨inside, s, ⟨there, counts⟩, counts, stop⟩

/-- Data that begins inside the buffer has its first byte there, so the end of the data is the end of
a byte. -/
theorem lt_rawEnd_iff_le_byte
    (begins : ∀ s ∈ t.sections, s.Counts → s.rawOffset < t.length) :
    n < t.rawEnd ↔ ∃ off ∈ t.countedBytes, n ≤ off := by
  constructor
  · intro past
    obtain ⟨inside, s, there, counts, stop⟩ := lt_rawEnd_iff.1 past
    by_cases started : s.rawOffset ≤ n
    · exact ⟨n, ⟨inside, s, there, counts, started, stop⟩, Nat.le_refl n⟩
    · have some := counts.some
      exact ⟨s.rawOffset, ⟨begins s there counts, s, there, counts, Nat.le_refl _, by omega⟩,
        by omega⟩
  · rintro ⟨off, there, le⟩
    exact Nat.lt_of_le_of_lt le (lt_rawEnd_of_mem there)

/-- The end of the data and what follows it. -/
def overlay (t : SectionTable) : Nat × Nat :=
  if t.rawEnd = 0 ∨ t.length ≤ t.rawEnd then (0, 0) else (t.rawEnd, t.length - t.rawEnd)

theorem overlay_counted (t : SectionTable) : t.counted.overlay = t.overlay := by
  unfold overlay
  rw [rawEnd_counted]
  rfl

theorem follows_overlay (begins : ∀ s ∈ t.sections, s.Counts → s.rawOffset < t.length) :
    Follows t.countedBytes t.length t.overlay := by
  have le := t.rawEnd_le
  unfold overlay
  rcases Nat.eq_zero_or_pos t.rawEnd with zero | pos
  · refine .inl ⟨?_, if_pos (.inl zero)⟩
    refine Set.eq_empty_of_forall_notMem fun off there => ?_
    have past := lt_rawEnd_of_mem there
    omega
  · obtain ⟨last, ends⟩ : ∃ last, t.rawEnd = last + 1 := ⟨t.rawEnd - 1, by omega⟩
    refine .inr ⟨last, ⟨?_, fun off there => ?_⟩, ?_⟩
    · obtain ⟨off, there, le⟩ := (lt_rawEnd_iff_le_byte begins).1 (by omega : last < t.rawEnd)
      have past := lt_rawEnd_of_mem there
      obtain rfl : off = last := by omega
      exact there
    · have past := lt_rawEnd_of_mem there
      omega
    · rw [ends]
      by_cases all : last + 1 = t.length
      · rw [if_pos all, if_pos (by omega)]
      · rw [if_neg all, if_neg (by omega)]

/-- No byte of the overlay is in raw data that counts. -/
theorem not_backs_of_overlay {off : Nat} (start : t.overlay.1 ≤ off)
    (stop : off < t.overlay.1 + t.overlay.2) (there : s ∈ t.sections) (counts : s.Counts) :
    ¬ s.Backs off := by
  intro backs
  unfold overlay at start stop
  by_cases none : t.rawEnd = 0 ∨ t.length ≤ t.rawEnd
  · rw [if_pos none] at stop
    exact Nat.not_lt_zero off stop
  · rw [if_neg none] at start stop
    dsimp only at start stop
    have past : off < t.rawEnd := lt_rawEnd_of_mem ⟨by omega, s, there, counts, backs⟩
    omega

end SectionTable

namespace Image

/-- Whatever was asked before, this is the overlay that the image gives. -/
def Overlays (i : Image) (overlay : Nat × Nat) : Prop :=
  ∀ past, (i.ask (.fact .overlay) (i.after past)).1 = .ok (.list [.nat overlay.1, .nat overlay.2])

variable {i : Image}

theorem overlay?_eq (isPe : i.isPe) (file : i.mode = .file)
    (length : i.sections.length = i.data.size) : i.overlay? = some i.sections.overlay := by
  obtain ⟨h, header⟩ := Option.isSome_iff_exists.1 isPe
  unfold overlay? SectionTable.overlay
  rw [header, isMapped, file, length]
  simp only [Option.bind_eq_bind, Option.bind_some, reduceCtorEq, decide_false, Bool.false_eq_true,
    if_false]
  split <;> rfl

theorem overlays_of_overlay? {overlay : Nat × Nat} (found : i.overlay? = some overlay) :
    i.Overlays overlay := by
  intro past
  have value : (i.ask (.fact .overlay) (i.after past)).1 = .ok (.option _ i.overlay?) := rfl
  rw [value, found]
  rfl

/-- There is one overlay. -/
theorem Overlays.unique {overlay overlay' : Nat × Nat} (h : i.Overlays overlay)
    (h' : i.Overlays overlay') : overlay = overlay' := by
  have same := Except.ok.inj ((h []).symm.trans (h' []))
  simp only [Value.list.injEq, List.cons.injEq, Value.nat, Value.int.injEq, Int.natCast_inj] at same
  exact Prod.ext same.1 same.2.1

end Image

/-- A file has an overlay that is what follows the last byte that a section has in it, if each section
with raw data whose end does not wrap begins inside the file. In any case no byte of the overlay is in
such raw data, and the other sections make no difference. -/
theorem overlay_follows_section_bytes (data : Bytes) (limits : Limits) (reader : SignatureReader)
    (i : Image) (loaded : Image.load data .file limits reader = .ok i) (isPe : i.isPe) :
    ∃ overlay, i.Overlays overlay ∧
      ((∀ s ∈ i.sections.sections, s.Counts → s.rawOffset < data.size) →
        Follows { off | off < data.size ∧ ∃ s ∈ i.sections.sections, s.Counts ∧ s.Backs off }
          data.size overlay) ∧
      (∀ off, overlay.1 ≤ off → off < overlay.1 + overlay.2 →
        ∀ s ∈ i.sections.sections, s.Counts → ¬ s.Backs off) ∧
      ({ i with sections := i.sections.counted } : Image).Overlays overlay := by
  rw [Image.load_eq] at loaded
  obtain rfl := Except.ok.inj loaded
  have mode := Image.read_mode data .file limits reader
  have length := Image.read_sections_length data .file limits reader
  have size := congrArg Array.size (Image.read_data data .file limits reader)
  refine ⟨_, Image.overlays_of_overlay? (Image.overlay?_eq isPe mode (length.trans size.symm)),
    fun begins => ?_, fun off start stop s there counts => ?_, ?_⟩
  · rw [← length] at begins ⊢
    exact SectionTable.follows_overlay begins
  · exact SectionTable.not_backs_of_overlay start stop there counts
  · apply Image.overlays_of_overlay?
    rw [← SectionTable.overlay_counted]
    exact Image.overlay?_eq isPe mode (length.trans size.symm)

/-- A file of 272 bytes with two sections. The raw data of the first one is the eight bytes at 256, in
front of the last eight. -/
def sectionedFile (rawOffset rawSize : Nat) : Bytes := List.toArray <|
  [0x4D, 0x5A] ++ List.replicate 58 0 ++ [64, 0, 0, 0] ++
    [0x50, 0x45, 0, 0, 0x4C, 1, 2] ++ List.replicate 13 0 ++ [0x60, 0, 0, 0] ++
    [0x0B, 1] ++ List.replicate 94 0 ++
    List.replicate 16 0 ++ [8, 0, 0, 0, 0, 1, 0, 0] ++ List.replicate 16 0 ++
    List.replicate 16 0 ++ littleEndian 4 rawSize ++ littleEndian 4 rawOffset ++
    List.replicate 24 0

theorem overlay_follows_both_sections :
    ∃ i, Image.load (sectionedFile 258 2) .file {} .standard = .ok i ∧ i.isPe ∧
      (∀ s ∈ i.sections.sections, s.Counts → s.rawOffset < 272) ∧
      i.Overlays (264, 8) ∧
      Follows { off | off < 272 ∧ ∃ s ∈ i.sections.sections, s.Counts ∧ s.Backs off } 272 (264, 8) := by
  have size : (sectionedFile 258 2).size = 272 := by decide +kernel
  have isPe : (Image.read (sectionedFile 258 2)).isPe := by decide +kernel
  have begins : ∀ s ∈ (Image.read (sectionedFile 258 2)).sections.sections,
      s.Counts → s.rawOffset < 272 := by decide +kernel
  have found : (Image.read (sectionedFile 258 2)).overlay? = some (264, 8) := by decide +kernel
  obtain ⟨overlay, gives, follows, -⟩ := overlay_follows_section_bytes (sectionedFile 258 2) {}
    .standard _ (Image.load_eq ..) isPe
  obtain rfl := gives.unique (Image.overlays_of_overlay? found)
  rw [size] at follows
  exact ⟨_, Image.load_eq .., isPe, begins, gives, follows begins⟩

/-- A section that begins behind the file hides what follows the others, and what follows the others
may be raw data of a section whose end wraps. -/
theorem overlay_may_miss_section_bytes :
    (∃ i, Image.load (sectionedFile 0x10000 0x400) .file {} .standard = .ok i ∧ i.isPe ∧
      i.Overlays (0, 0) ∧
      ¬ Follows { off | off < 272 ∧ ∃ s ∈ i.sections.sections, s.Backs off } 272 (0, 0)) ∧
    ∃ i, Image.load (sectionedFile 256 0xFFFFFFFF) .file {} .standard = .ok i ∧ i.isPe ∧
      i.Overlays (264, 8) ∧
      ¬ Follows { off | off < 272 ∧ ∃ s ∈ i.sections.sections, s.Backs off } 272 (264, 8) := by
  constructor
  · refine ⟨_, Image.load_eq .., by decide +kernel, Image.overlays_of_overlay? (by decide +kernel), ?_⟩
    rintro (⟨empty, -⟩ | ⟨last, greatest, overlay⟩)
    · have there : ∃ s ∈ (Image.read (sectionedFile 0x10000 0x400)).sections.sections,
          s.Backs 256 := by decide +kernel
      exact Set.notMem_empty 256 (empty ▸ ⟨by decide, there⟩)
    · split at overlay
      next whole =>
        obtain rfl : last = 271 := by omega
        have free : ¬ ∃ s ∈ (Image.read (sectionedFile 0x10000 0x400)).sections.sections,
          s.Backs 271 := by decide +kernel
        exact free greatest.1.2
      · cases overlay
  · refine ⟨_, Image.load_eq .., by decide +kernel, Image.overlays_of_overlay? (by decide +kernel), ?_⟩
    rintro (⟨-, overlay⟩ | ⟨last, greatest, overlay⟩)
    · cases overlay
    · have there : ∃ s ∈ (Image.read (sectionedFile 256 0xFFFFFFFF)).sections.sections,
          s.Backs 271 := by decide +kernel
      have le : 271 ≤ last := greatest.2 ⟨by decide, there⟩
      have lt : last < 272 := greatest.1.1
      rw [if_pos (by omega)] at overlay
      cases overlay

end PeFacts
