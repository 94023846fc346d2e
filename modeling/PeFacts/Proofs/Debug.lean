import PeFacts.Guarded.Debug
import PeFacts.Proofs.Import.Limit

/-!
# The path of the program database

An entry of the debug directory is `Usable` if it locates a CodeView record that has a path. The search
goes from entry to entry, up to one that is usable or whose type is cut off; `Search` says in which of
three ways that can go. So what is found is the path of the first usable entry, and nothing behind that
entry matters: `path_is_that_of_first_usable_entry`.
-/

namespace PeFacts.Debug

open ImportTable (Row row_zero row_succ)

section Entries

variable (data : Bytes) (mapped : Bool) (maxLength : Int)

/-- A record begins at `off` with the letters of one of two layouts, which say that its path begins at
`start`. -/
inductive Begins (off : Nat) : (start : Nat) → Prop
  | rsds (letters : data.matchesAt #[0x52, 0x53, 0x44, 0x53] off) : Begins off (off + 24)
  | nb10 (letters : data.matchesAt #[0x4E, 0x42, 0x31, 0x30] off) : Begins off (off + 16)

/-- The CodeView record at `off` has the path. -/
structure RecordAt (off : Nat) (path : String) : Prop where
  stands : ∃ start, Begins data off start ∧ data.TextAt start maxLength path
  nonempty : path ≠ ""

/-- The type of the entry at `off` can be read. -/
def Readable (off : Nat) : Prop := ∃ type, data.u32? (off + 12) = some type

/-- The entry at `off` locates a CodeView record that has the path: by its address in a memory image,
by its position in a file. -/
structure Usable (off : Nat) (path : String) : Prop where
  type : data.u32? (off + 12) = some codeView
  record : ∃ start, data.u32? (if mapped then off + 20 else off + 24) = some start ∧
    RecordAt data maxLength start path

/-- The search goes on behind the entry at `off`. -/
structure Skipped (off : Nat) : Prop where
  readable : Readable data off
  unusable : ∀ path, ¬ Usable data mapped maxLength off path

/-- The entry with this index is the first usable one of `count` entries from `base` on, it has the
path, and the search comes that far. -/
structure FirstUsable (base count index : Nat) (path : String) : Prop where
  within : index < count
  readable : ∀ k ≤ index, Readable data (base + entrySize * k)
  usable : Usable data mapped maxLength (base + entrySize * index) path
  first : ∀ k < index, ∀ other, ¬ Usable data mapped maxLength (base + entrySize * k) other

/-- The entry with this index is the first unreadable one of `count` entries from `base` on. -/
structure FirstUnreadable (base count index : Nat) : Prop where
  within : index < count
  unreadable : ¬ Readable data (base + entrySize * index)
  first : ∀ k < index, Readable data (base + entrySize * k)

/-- A search through `count` entries from `base` on finds the path of the first usable entry. Only when
there is none, it reports the first unreadable entry. -/
structure FindsFirst (base count : Nat) (result : Option String × List Problem) : Prop where
  path : ∀ path, result.1 = some path ↔
    ∃ index, FirstUsable data mapped maxLength base count index path
  quiet : ∀ path, result.1 = some path → result.2 = []
  cut : result.1 = none → ∀ index, FirstUnreadable data base count index →
    result.2 = [.debugDirectoryTruncated index]
  whole : result.1 = none → (∀ k < count, Readable data (base + entrySize * k)) → result.2 = []

/-- The ways in which a search through `left` entries from `off` on can go; the first of them has the
index `index`. -/
inductive Search (index off left : Nat) : Option String × List Problem → Prop
  | found {i : Nat} {path : String} (within : i < left)
      (skipped : Row (Skipped data mapped maxLength) entrySize off i)
      (usable : Usable data mapped maxLength (off + entrySize * i) path) :
      Search index off left (some path, [])
  | cut {i : Nat} (within : i < left)
      (skipped : Row (Skipped data mapped maxLength) entrySize off i)
      (unreadable : ¬ Readable data (off + entrySize * i)) :
      Search index off left (none, [.debugDirectoryTruncated (index + i)])
  | through (skipped : Row (Skipped data mapped maxLength) entrySize off left) :
      Search index off left (none, [])

end Entries

variable {data : Bytes} {mapped : Bool} {maxLength : Int}

/-! ## One entry -/

/-- No record begins with the letters of both layouts. -/
theorem pathOffset?_eq_some_iff {off start : Nat} :
    pathOffset? data off = some start ↔ Begins data off start := by
  unfold pathOffset?
  constructor
  · intro found
    split at found
    next letters =>
      cases found
      exact .rsds letters
    next =>
      split at found
      next letters =>
        cases found
        exact .nb10 letters
      next => cases found
  · rintro (letters | letters)
    · rw [if_pos letters]
    · have other : ¬ data.matchesAt #[0x52, 0x53, 0x44, 0x53] off := by
        intro both
        have rsds := (Bytes.matchesAt_iff.1 both).2
        have nb10 := (Bytes.matchesAt_iff.1 letters).2
        have same : (#[0x52, 0x53, 0x44, 0x53] : Bytes) = #[0x4E, 0x42, 0x31, 0x30] :=
          rsds.symm.trans nb10
        exact absurd same (by decide)
      rw [if_neg other, if_pos letters]

theorem path?_eq_some_iff (forward : 0 ≤ maxLength) {off : Nat} {path : String} :
    path? data off maxLength = some path ↔ RecordAt data maxLength off path := by
  rw [Guarded.path?_eq, Option.filter_eq_some_iff, Option.bind_eq_some_iff]
  simp only [pathOffset?_eq_some_iff, Bytes.cString?_eq_some_iff forward, Bool.not_eq_true',
    String.isEmpty_eq_false_iff]
  constructor
  · rintro ⟨stands, nonempty⟩
    exact ⟨stands, nonempty⟩
  · rintro ⟨stands, nonempty⟩
    exact ⟨stands, nonempty⟩

/-- What the search looks for in an entry whose type it has read. -/
theorem usable_iff (forward : 0 ≤ maxLength) {off type : Nat} (read : data.u32? (off + 12) = some type)
    {path : String} :
    (if type = codeView then (recordOffset? data off mapped).bind (path? data · maxLength) else none) =
      some path ↔ Usable data mapped maxLength off path := by
  have located : (recordOffset? data off mapped).bind (path? data · maxLength) = some path ↔
      ∃ start, data.u32? (if mapped then off + 20 else off + 24) = some start ∧
        RecordAt data maxLength start path := by
    simp only [Option.bind_eq_some_iff, path?_eq_some_iff forward, recordOffset?]
  constructor
  · intro found
    split at found
    next code =>
      subst code
      exact ⟨read, located.1 found⟩
    next => cases found
  · rintro ⟨code, record⟩
    rw [read, Option.some.injEq] at code
    rw [if_pos code]
    exact located.2 record

theorem Usable.unique (forward : 0 ≤ maxLength) {off : Nat} {path path' : String}
    (h : Usable data mapped maxLength off path) (h' : Usable data mapped maxLength off path') :
    path = path' := by
  have found := (usable_iff forward h.type).2 h
  rw [(usable_iff forward h.type).2 h', Option.some.injEq] at found
  exact found.symm

/-! ## The search -/

/-- Behind an entry that is skipped the search goes on in the same way. -/
theorem Search.behind {index off left : Nat} {result : Option String × List Problem}
    (skipped : Skipped data mapped maxLength off)
    (h : Search data mapped maxLength (index + 1) (off + entrySize) left result) :
    Search data mapped maxLength index off (left + 1) result := by
  cases h with
  | @found i path within before usable =>
    refine .found (i := i + 1) (Nat.succ_lt_succ within) (row_succ.2 ⟨skipped, before⟩) ?_
    rwa [ImportTable.place_succ]
  | @cut i within before unreadable =>
    have place : index + 1 + i = index + (i + 1) := by omega
    rw [place]
    refine .cut (Nat.succ_lt_succ within) (row_succ.2 ⟨skipped, before⟩) ?_
    rwa [ImportTable.place_succ]
  | through before => exact .through (row_succ.2 ⟨skipped, before⟩)

theorem search_pathFrom (forward : 0 ≤ maxLength) (index off left : Nat) :
    Search data mapped maxLength index off left (pathFrom data mapped maxLength index off left) := by
  induction left generalizing index off with
  | zero => exact .through row_zero
  | succ left ih =>
    rw [pathFrom]
    cases read : data.u32? (off + 12) with
    | none =>
      have unreadable : ¬ Readable data off := by simp [Readable, read]
      exact .cut (i := 0) left.succ_pos row_zero unreadable
    | some type =>
      dsimp only
      split
      next path found =>
        have usable : Usable data mapped maxLength off path := (usable_iff forward read).1 found
        exact .found (i := 0) left.succ_pos row_zero usable
      next missing =>
        refine .behind ⟨⟨type, read⟩, fun path usable => ?_⟩ (ih (index + 1) (off + entrySize))
        rw [(usable_iff forward read).2 usable] at missing
        cases missing

/-- However a search goes, it finds the first usable entry. -/
theorem Search.findsFirst (forward : 0 ≤ maxLength) {base count : Nat}
    {result : Option String × List Problem} (h : Search data mapped maxLength 0 base count result) :
    FindsFirst data mapped maxLength base count result := by
  cases h with
  | @found i path within skipped usable =>
    have here : FirstUsable data mapped maxLength base count i path := {
      within
      usable
      readable := by
        intro k le
        rcases Nat.lt_or_eq_of_le le with before | rfl
        · exact (skipped k before).readable
        · exact ⟨_, usable.type⟩
      first := fun k before => (skipped k before).unusable }
    refine ⟨fun other => ⟨?_, ?_⟩, fun _ _ => rfl, nofun, nofun⟩
    · intro same
      obtain rfl := Option.some.inj same
      exact ⟨i, here⟩
    · rintro ⟨j, there⟩
      rcases Nat.lt_trichotomy i j with before | rfl | behind
      · exact absurd usable (there.first i before path)
      · rw [usable.unique forward there.usable]
      · exact absurd there.usable (here.first j behind other)
  | @cut i within skipped unreadable =>
    have here : FirstUnreadable data base count i :=
      ⟨within, unreadable, fun k before => (skipped k before).readable⟩
    refine ⟨fun other => ⟨nofun, ?_⟩, nofun, fun _ j there => ?_, fun _ readable => ?_⟩
    · rintro ⟨j, there⟩
      rcases Nat.lt_or_ge j i with before | behind
      · exact absurd there.usable ((skipped j before).unusable other)
      · exact absurd (there.readable i behind) unreadable
    · rcases Nat.lt_trichotomy i j with before | rfl | behind
      · exact absurd (there.first i before) unreadable
      · rw [Nat.zero_add]
      · exact absurd (here.first j behind) there.unreadable
    · exact absurd (readable i within) unreadable
  | through skipped =>
    refine ⟨fun other => ⟨nofun, ?_⟩, nofun, fun _ j there => ?_, fun _ _ => rfl⟩
    · rintro ⟨j, there⟩
      exact absurd there.usable ((skipped j there.within).unusable other)
    · exact absurd (skipped j there.within).readable there.unreadable

/-- The path of the program database is that of the first usable entry of the debug directory, of which
at most 64 entries are looked at. Entries without a usable record do not end the search, and entries
behind the usable one are not looked at. The same holds of a search in another mode than that of the
section table. -/
theorem path_is_that_of_first_usable_entry (data : Bytes) (sections : SectionTable)
    (directory : DataDirectory) (maxLength : Int) (base : Nat)
    (located : sections.offset? directory.address = some base) (forward : 0 ≤ maxLength) :
    FindsFirst data sections.mapped maxLength base (min (directory.size / 28) 64)
        (pdbPath data sections directory maxLength) ∧
      (∀ mapped, FindsFirst data mapped maxLength base (min (directory.size / 28) 64)
        (pathFrom data mapped maxLength 0 base (min (directory.size / 28) 64))) ∧
      Guarded.Yields sections (Guarded.pdbPath data sections directory maxLength)
        (pdbPath data sections directory maxLength) := by
  have searched (mapped : Bool) : FindsFirst data mapped maxLength base (min (directory.size / 28) 64)
      (pathFrom data mapped maxLength 0 base (min (directory.size / 28) 64)) :=
    (search_pathFrom forward 0 base _).findsFirst forward
  refine ⟨?_, searched, Guarded.yields_pdbPath sections directory maxLength⟩
  rw [pdbPath, located]
  exact searched sections.mapped

/-- A record with the path `p`, and a directory of three entries: one whose record is outside the file,
the one for the record, and one that is cut off. -/
def cutDirectory : Bytes :=
  #[0x4E, 0x42, 0x31, 0x30] ++ Array.replicate 12 0 ++ #[0x70, 0, 0, 0] ++
    (Array.replicate 12 0 ++ #[2, 0, 0, 0] ++ Array.replicate 8 0 ++ #[0xFF, 0xFF, 0xFF, 0x7F]) ++
    (Array.replicate 12 0 ++ #[2, 0, 0, 0] ++ Array.replicate 12 0)

/-- The section that holds it all. -/
def cutSections : SectionTable where
  sections := [⟨0, ".rdata", 76, 0x1000, 76, 0, 0, true⟩]
  length := 76

theorem second_entry_is_first_usable :
    cutSections.offset? 0x1014 = some 20 ∧
      (∃ index, FirstUsable cutDirectory false 512 20 3 index "p") ∧
      pdbPath cutDirectory cutSections ⟨0x1014, 84⟩ 512 = (some "p", []) := by
  have located : cutSections.offset? 0x1014 = some 20 := by decide
  have finds : FindsFirst cutDirectory false 512 20 3
      (pdbPath cutDirectory cutSections ⟨0x1014, 84⟩ 512) :=
    (path_is_that_of_first_usable_entry cutDirectory cutSections ⟨0x1014, 84⟩ 512 20 located
      (by decide)).1
  have found : (pdbPath cutDirectory cutSections ⟨0x1014, 84⟩ 512).1 = some "p" := by decide +kernel
  exact ⟨located, (finds.path "p").1 found, Prod.ext found (finds.quiet "p" found)⟩

end PeFacts.Debug
