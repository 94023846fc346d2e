import PeFacts.Proofs.Acceptance

/-!
# Headers that are laid out in a buffer

How the headers of an image and its section table are written, and that loading the buffer reads them
back. `Header.LaidOut` places the parts: the letters, the records of fixed length, the data
directories as far as the declared size of the optional header leaves room, and the section headers
behind that size. Each part has a lemma that reads it (`decode_laidOut`, `directories_laidOut`,
`Section.readFrom_laidOut`). Main result: `laid_out_headers_are_read`.
-/

namespace PeFacts

/-! ## How headers are written -/

/-- The fields of the optional header that no reader asks for. -/
structure UnreadFields where
  sizeOfCode : Nat
  sizeOfInitializedData : Nat
  sizeOfUninitializedData : Nat
  baseOfCode : Nat
  /-- Only the narrow layout has this field. -/
  baseOfData : Nat
  win32Version : Nat
  stackReserve : Nat
  stackCommit : Nat
  heapReserve : Nat
  heapCommit : Nat
  loaderFlags : Nat
  deriving Repr, DecidableEq

/-- A version as two fields of `width` bytes. -/
def Version.fields (v : Version) (width : Nat) : List Field := [⟨width, v.major⟩, ⟨width, v.minor⟩]

/-- A data directory as two fields. -/
def DataDirectory.fields (d : DataDirectory) : List Field := [⟨4, d.address⟩, ⟨4, d.size⟩]

namespace Header

/-- The COFF header. -/
def coffFields (h : Header) : List Field :=
  [⟨2, h.machine⟩, ⟨2, h.numberOfSections⟩, ⟨4, h.timestamp⟩, ⟨4, h.pointerToSymbolTable⟩,
    ⟨4, h.numberOfSymbols⟩, ⟨2, h.sizeOfOptionalHeader⟩, ⟨2, h.characteristics⟩]

/-- The base addresses: the wide layout has a longer one and not the other. -/
def baseFields (h : Header) (u : UnreadFields) : List Field :=
  match h.layout with
  | .pe32 => [⟨4, u.baseOfData⟩, ⟨4, h.imageBase⟩]
  | .pe32Plus => [⟨8, h.imageBase⟩]

/-- The fixed part of the optional header. -/
def optionalFields (h : Header) (u : UnreadFields) : List Field :=
  let memory := h.layout.imageBaseSize
  [⟨2, h.magic⟩] ++ h.linkerVersion.fields 1 ++
    [⟨4, u.sizeOfCode⟩, ⟨4, u.sizeOfInitializedData⟩, ⟨4, u.sizeOfUninitializedData⟩,
      ⟨4, h.entryPoint⟩, ⟨4, u.baseOfCode⟩] ++ h.baseFields u ++
    [⟨4, h.sectionAlignment⟩, ⟨4, h.fileAlignment⟩] ++ h.osVersion.fields 2 ++
    h.imageVersion.fields 2 ++ h.subsystemVersion.fields 2 ++
    [⟨4, u.win32Version⟩, ⟨4, h.sizeOfImage⟩, ⟨4, h.sizeOfHeaders⟩, ⟨4, h.checksum⟩,
      ⟨2, h.subsystem⟩, ⟨2, h.dllCharacteristics⟩, ⟨memory, u.stackReserve⟩,
      ⟨memory, u.stackCommit⟩, ⟨memory, u.heapReserve⟩, ⟨memory, u.heapCommit⟩,
      ⟨4, u.loaderFlags⟩, ⟨4, h.numberOfRvaAndSizes⟩]

/-- How many data directories the declared size of the optional header has room for. -/
def directoryRoom (h : Header) : Nat := (h.sizeOfOptionalHeader - h.layout.directoriesOffset) / 8

end Header

/-- A section header as it is stored. -/
structure StoredSection where
  name : Vector UInt8 8
  virtualSize : Nat
  virtualAddress : Nat
  rawSize : Nat
  rawOffset : Nat
  relocations : Nat
  lineNumbers : Nat
  relocationCount : Nat
  lineNumberCount : Nat
  characteristics : Nat
  deriving Repr, DecidableEq

namespace StoredSection

/-- The numbers of a section header, which follow the name. -/
def fields (s : StoredSection) : List Field :=
  [⟨4, s.virtualSize⟩, ⟨4, s.virtualAddress⟩, ⟨4, s.rawSize⟩, ⟨4, s.rawOffset⟩, ⟨4, s.relocations⟩,
    ⟨4, s.lineNumbers⟩, ⟨2, s.relocationCount⟩, ⟨2, s.lineNumberCount⟩, ⟨4, s.characteristics⟩]

/-- The forty bytes of a section header. -/
def bytes (s : StoredSection) : Bytes := s.name.toArray ++ fieldBytes s.fields

/-- The section that a header says, at place `index` in a buffer of `length` bytes: the name is its
ASCII text before the first zero byte, and raw data is in bounds if its end is below 4 GiB and in the
buffer. -/
def record (s : StoredSection) (length index : Nat) : Section where
  index
  name := String.ofList ((s.name.toList.takeWhile (· != 0)).map fun b =>
    if b.toNat < 0x80 then Char.ofNat b.toNat else '\uFFFD')
  virtualSize := s.virtualSize
  virtualAddress := s.virtualAddress
  rawSize := s.rawSize
  rawOffset := s.rawOffset
  characteristics := s.characteristics
  rawInBounds := s.rawOffset + s.rawSize ≤ 0xFFFFFFFF ∧ s.rawOffset + s.rawSize ≤ length

end StoredSection

/-- Section headers, one after the other. -/
def sectionBytes : List StoredSection → Bytes
  | [] => #[]
  | s :: rest => s.bytes ++ sectionBytes rest

namespace Header

/-- The headers and the section headers stand in the buffer. -/
structure LaidOut (data : Bytes) (h : Header) (u : UnreadFields) (stored : List StoredSection) :
    Prop where
  dosLetters : data.matchesAt #[0x4D, 0x5A] 0
  located : data.matchesAt (fieldBytes [⟨4, h.eLfanew⟩]) 0x3C
  ntLetters : data.matchesAt #[0x50, 0x45, 0, 0] h.eLfanew
  coff : data.matchesAt (fieldBytes h.coffFields) (h.eLfanew + 4)
  optional : data.matchesAt (fieldBytes (h.optionalFields u)) (h.eLfanew + 24)
  /-- The data directories stand there as far as there is room. -/
  directories : data.matchesAt
    (fieldBytes ((h.directories.take h.directoryRoom).flatMap DataDirectory.fields))
    (h.eLfanew + 24 + h.layout.directoriesOffset)
  sections : data.matchesAt (sectionBytes stored) (h.eLfanew + 24 + h.sizeOfOptionalHeader)
  /-- Every number fits into its field. -/
  fit : ∀ f ∈ ⟨4, h.eLfanew⟩ :: h.coffFields ++ h.optionalFields u ++
    h.directories.flatMap DataDirectory.fields ++ stored.flatMap StoredSection.fields, f.Fits
  layout : h.layout = HeaderLayout.ofMagic h.magic
  optionalHeaderOffset : h.optionalHeaderOffset = h.eLfanew + 24
  /-- The declared size covers the fixed part. -/
  declared : h.layout.directoriesOffset ≤ h.sizeOfOptionalHeader
  numberOfSections : h.numberOfSections = stored.length

variable {data : Bytes} {h : Header} {u : UnreadFields} {stored : List StoredSection}

/-! ## Reading them back -/

theorem fieldsAt_coff (laidOut : LaidOut data h u stored) :
    data.FieldsAt (h.eLfanew + 4) h.coffFields := by
  apply Bytes.fieldsAt_of_matchesAt laidOut.coff
  intro f hf
  exact laidOut.fit f (by simp [hf])

theorem fieldsAt_optional (laidOut : LaidOut data h u stored) :
    data.FieldsAt (h.eLfanew + 24) (h.optionalFields u) := by
  apply Bytes.fieldsAt_of_matchesAt laidOut.optional
  intro f hf
  exact laidOut.fit f (by simp [hf])

/-- The scalar fields that are read are those that were written. -/
theorem decode_laidOut (laidOut : LaidOut data h u stored) :
    decode data h.eLfanew h.layout =
      { h with directories := (decode data h.eLfanew h.layout).directories } := by
  have coff := fieldsAt_coff laidOut
  have optional := fieldsAt_optional laidOut
  have offset := laidOut.optionalHeaderOffset
  simp only [coffFields, Bytes.FieldsAt, Nat.add_assoc, Nat.reduceAdd, and_true] at coff
  cases layout : h.layout with
  | pe32 | pe32Plus =>
    simp only [optionalFields, baseFields, Version.fields, layout, HeaderLayout.imageBaseSize,
      List.cons_append, List.nil_append, Bytes.FieldsAt, Nat.add_assoc, Nat.reduceAdd, and_true]
      at optional
    simp only [decode, versionAt, coffSize, checksumFieldOffset, HeaderLayout.imageBaseOffset,
      HeaderLayout.imageBaseSize, HeaderLayout.directoryCountOffset, Nat.add_assoc, Nat.reduceAdd,
      coff, optional]
    rw [← layout, ← offset]

/-- The table that is read and the one that is stored agree as far as both go. -/
theorem take_directoryTable {off count : Nat} {ds : List DataDirectory}
    (there : data.FieldsAt off (ds.flatMap DataDirectory.fields)) :
    (directoryTable data off count).take ds.length = ds.take count := by
  induction ds generalizing off count with
  | nil => simp
  | cons d ds ih =>
    cases count with
    | zero => simp [directoryTable]
    | succ count =>
      simp only [List.flatMap_cons, DataDirectory.fields, List.cons_append, List.nil_append,
        Bytes.FieldsAt, Nat.add_assoc, Nat.reduceAdd] at there
      obtain ⟨address, size, others⟩ := there
      rw [Guarded.directoryTable_succ, address, size, List.length_cons, List.take_succ_cons,
        List.take_succ_cons, ih others]

/-- The declared size ends the table of data directories, since all of it is in the buffer. -/
theorem directories_eq (laidOut : LaidOut data h u stored) :
    (decode data h.eLfanew h.layout).directories =
      directoryTable data (h.eLfanew + 24 + h.layout.directoriesOffset)
        (min (min h.numberOfRvaAndSizes 16) h.directoryRoom) := by
  have inside := (Bytes.matchesAt_iff.1 laidOut.sections).1
  have size : data.number (h.eLfanew + 4 + 16) 2 = h.sizeOfOptionalHeader :=
    congrArg sizeOfOptionalHeader (decode_laidOut laidOut)
  have announced : data.number (h.eLfanew + 4 + coffSize + h.layout.directoryCountOffset) 4 =
      h.numberOfRvaAndSizes := congrArg numberOfRvaAndSizes (decode_laidOut laidOut)
  have count : directoryCount data (h.eLfanew + 4 + coffSize) h.sizeOfOptionalHeader h.layout
      h.numberOfRvaAndSizes = min (min h.numberOfRvaAndSizes 16) h.directoryRoom := by
    simp only [directoryCount, directoryRoom, coffSize, maxDirectories]
    omega
  simp only [decode, size, announced, count]
  rfl

/-- The data directories that are read are those that are announced and have room. -/
theorem directories_laidOut (laidOut : LaidOut data h u stored) {n : Nat}
    (many : n = min (min h.numberOfRvaAndSizes 16) h.directoryRoom) :
    (decode data h.eLfanew h.layout).directories.length = n ∧
      (decode data h.eLfanew h.layout).directories.take h.directories.length =
        h.directories.take n := by
  have fit : ∀ f ∈ (h.directories.take h.directoryRoom).flatMap DataDirectory.fields, f.Fits := by
    intro f hf
    obtain ⟨d, hd, hf⟩ := List.mem_flatMap.1 hf
    have written : f ∈ h.directories.flatMap DataDirectory.fields :=
      List.mem_flatMap.2 ⟨d, List.mem_of_mem_take hd, hf⟩
    exact laidOut.fit f (by simp only [List.cons_append, List.mem_cons, List.mem_append, written,
      true_or, or_true])
  have agree := @take_directoryTable _ _ n _ (Bytes.fieldsAt_of_matchesAt laidOut.directories fit)
  rw [directories_eq laidOut, ← many]
  generalize made : directoryTable data _ n = table at agree
  have length : table.length = n := by simp [← made, directoryTable]
  -- The table is no longer than there is room, so what is cut off for want of room is not in it.
  have cut : table.take h.directories.length =
      table.take (h.directories.take h.directoryRoom).length := by
    rw [List.take_eq_take_iff, length, List.length_take]
    omega
  refine ⟨length, ?_⟩
  calc table.take h.directories.length
      = (h.directories.take h.directoryRoom).take n := cut.trans agree
    _ = h.directories.take n := by
      rw [List.take_take]
      congr 1
      omega

/-- Headers that are laid out are accepted. -/
theorem accepted_of_laidOut (laidOut : LaidOut data h u stored) :
    Accepted data h.eLfanew h.layout := by
  have located := Bytes.fieldsAt_of_matchesAt laidOut.located fun f hf =>
    laidOut.fit f (by simp [List.mem_singleton.1 hf])
  have optional := fieldsAt_optional laidOut
  have room := (Bytes.matchesAt_iff.1 laidOut.located).1
  have inside := (Bytes.matchesAt_iff.1 laidOut.sections).1
  have declared := laidOut.declared
  constructor
  · exact room
  · exact laidOut.dosLetters
  · exact located.1
  · exact laidOut.ntLetters
  · rw [laidOut.layout]
    exact congrArg _ optional.1
  · omega

end Header

namespace Section

variable {data : Bytes}

theorem size_bytes (s : StoredSection) : s.bytes.size = headerSize := by
  rw [StoredSection.bytes, Array.size_append, size_fieldBytes, Vector.size_toArray]
  rfl

theorem decode_laidOut {off : Nat} {s : StoredSection} (stored : data.matchesAt s.bytes off)
    (fit : ∀ f ∈ s.fields, f.Fits) (index : Nat) :
    decode data index off = s.record data.size index := by
  obtain ⟨name, numbers⟩ := Bytes.matchesAt_append_iff.1 stored
  have numbers := Bytes.fieldsAt_of_matchesAt numbers fit
  have letters := (Bytes.matchesAt_iff.1 name).2
  rw [Vector.size_toArray] at numbers letters
  simp only [StoredSection.fields, Bytes.FieldsAt, Nat.add_assoc, Nat.reduceAdd, and_true] at numbers
  have bounds : (Address.add32? s.rawOffset s.rawSize).any (· ≤ data.size) =
      decide (s.rawOffset + s.rawSize ≤ 0xFFFFFFFF ∧ s.rawOffset + s.rawSize ≤ data.size) := by
    by_cases below : s.rawOffset + s.rawSize ≤ 0xFFFFFFFF
    · simp [Address.add32?, Address.max32, below]
    · simp [Address.add32?, Address.max32, below]
  simp only [decode, nameOf, letters, numbers, bounds]
  rfl

/-- The section headers that stand in the buffer are read, as many as are asked for. -/
theorem readFrom_laidOut {off : Nat} {ss : List StoredSection}
    (stored : data.matchesAt (sectionBytes ss) off)
    (fit : ∀ f ∈ ss.flatMap StoredSection.fields, f.Fits) (index : Nat) {count : Nat}
    (there : count ≤ ss.length) :
    readFrom data index off count =
      ((ss.take count).mapIdx fun k s => s.record data.size (index + k), []) := by
  induction ss generalizing off index count with
  | nil =>
    obtain rfl : count = 0 := Nat.le_zero.1 there
    rfl
  | cons s ss ih =>
    cases count with
    | zero => rfl
    | succ count =>
      rw [sectionBytes] at stored
      obtain ⟨first, others⟩ := Bytes.matchesAt_append_iff.1 stored
      have inside := (Bytes.matchesAt_iff.1 first).1
      rw [size_bytes] at others inside
      rw [List.flatMap_cons] at fit
      have this_one := decode_laidOut first (fun f hf => fit f (List.mem_append_left _ hf)) index
      have rest := ih others (fun f hf => fit f (List.mem_append_right _ hf)) (index + 1)
        (Nat.le_of_succ_le_succ there)
      rw [readFrom, if_pos (Bytes.holds_iff.2 inside), rest, this_one, List.take_succ_cons,
        List.mapIdx_cons]
      simp only [Nat.add_zero, Nat.add_assoc, Nat.add_comm 1]

end Section

/-! ## The image -/

/-- The magic number is unknown, or the machine has addresses of the other width. -/
def Header.Ambiguous (h : Header) : Prop :=
  (h.magic ≠ 0x10B ∧ h.magic ≠ 0x20B) ∨ (h.magic = 0x20B ∧ h.machine = 0x14C) ∨
    (h.magic = 0x10B ∧ h.machine ∈ machines64)

instance (h : Header) : Decidable h.Ambiguous := inferInstanceAs (Decidable (_ ∨ _))

/-- The image has the headers and the sections that are stored, as many as its limits allow. -/
structure Image.ReadsHeaders (i : Image) (h : Header) (stored : List StoredSection) : Prop where
  /-- The data directories are the first ones of those stored. -/
  header : ∃ directories, i.header? = some { h with directories } ∧
    directories.length = min (min h.numberOfRvaAndSizes 16)
      ((h.sizeOfOptionalHeader - h.layout.directoriesOffset) / 8) ∧
    directories.take h.directories.length = h.directories.take directories.length
  sections : i.sections.sections =
    (stored.take i.limits.maxSections.toNat).mapIdx fun k s => s.record i.data.size k
  /-- Apart from an ambiguous layout only too many sections are a problem. -/
  problems : ∃ ambiguity, i.problems = ambiguity ++
      (if i.limits.maxSections < stored.length then
        [.sectionCountClamped stored.length i.limits.maxSections]
      else []) ∧
    ambiguity.length = (if h.Ambiguous then 1 else 0) ∧
    ∀ p ∈ ambiguity, p.kind = .ambiguousLayout

namespace Header

/-- There is one problem or none, and it is that of an ambiguous layout. -/
theorem layoutProblems_ambiguous (h : Header) :
    (layoutProblems h.magic h.machine).length = (if h.Ambiguous then 1 else 0) ∧
      ∀ p ∈ layoutProblems h.magic h.machine, p.kind = .ambiguousLayout := by
  unfold layoutProblems Ambiguous
  simp only [HeaderLayout.magic]
  by_cases wide : h.magic = 0x20B
  · by_cases machine : h.machine = machineI386
    · simp [wide, machine, ofMagic_eq, HeaderLayout.is64Bit, machineI386, Problem.kind]
    · have other : h.machine ≠ 0x14C := machine
      simp [wide, machine, other, ofMagic_eq, HeaderLayout.is64Bit]
  · by_cases narrow : h.magic = 0x10B
    · by_cases machine : h.machine ∈ machines64
      · simp [narrow, machine, ofMagic_eq, HeaderLayout.is64Bit, Problem.kind]
      · simp [narrow, machine, ofMagic_eq, HeaderLayout.is64Bit]
    · simp [wide, narrow, Problem.kind]

variable {data : Bytes} {h : Header} {u : UnreadFields} {stored : List StoredSection}

theorem problems_laidOut (laidOut : LaidOut data h u stored) :
    (decode data h.eLfanew h.layout).problems data = layoutProblems h.magic h.machine := by
  have inside := (Bytes.matchesAt_iff.1 laidOut.sections).1
  have offset := laidOut.optionalHeaderOffset
  rw [decode_laidOut laidOut, Header.problems, if_neg (by dsimp only; omega), List.append_nil]

theorem sections_laidOut (laidOut : LaidOut data h u stored) {limit : Int} (forward : 0 ≤ limit) :
    Section.readAll data (decode data h.eLfanew h.layout) limit =
      ((stored.take limit.toNat).mapIdx fun k s => s.record data.size k,
        if limit < stored.length then [.sectionCountClamped stored.length limit] else []) := by
  have count := laidOut.numberOfSections
  have place : (decode data h.eLfanew h.layout).sectionTableOffset =
      h.eLfanew + 24 + h.sizeOfOptionalHeader := by
    rw [decode_laidOut laidOut, sectionTableOffset, laidOut.optionalHeaderOffset]
  have announced : (decode data h.eLfanew h.layout).numberOfSections = stored.length := by
    rw [decode_laidOut laidOut, count]
  have fit : ∀ f ∈ stored.flatMap StoredSection.fields, f.Fits := fun f hf =>
    laidOut.fit f (List.mem_append_right _ hf)
  have read {n : Nat} (there : n ≤ stored.length) :=
    Section.readFrom_laidOut laidOut.sections fit 0 there
  simp only [Nat.zero_add] at read
  rw [Section.readAll, place, announced]
  by_cases many : limit < stored.length
  · rw [if_pos many, if_pos many, read (by omega)]
  · have all : stored.take limit.toNat = stored := List.take_of_length_le (by omega)
    rw [if_neg many, if_neg many, read (Nat.le_refl _), all, List.take_length]

/-- Loading a buffer in which headers are laid out reads these headers and their sections, whatever
else the buffer holds. -/
theorem laid_out_headers_are_read (laidOut : LaidOut data h u stored) (mode : ScanMode)
    {limits : Limits} (forward : 0 ≤ limits.maxSections) (reader : SignatureReader) :
    ∃ i, Image.load data mode limits reader = .ok i ∧ i.ReadsHeaders h stored := by
  have found := (accepted_of_laidOut laidOut).read
  obtain ⟨header, sections⟩ := Image.read_of_ok mode limits reader found
  have problems := Image.read_problems_of_ok mode limits reader found
  rw [sections_laidOut laidOut forward] at sections problems
  rw [problems_laidOut laidOut] at problems
  refine ⟨_, Image.load_eq data mode limits reader, ?_⟩
  constructor
  · obtain ⟨length, agree⟩ := directories_laidOut laidOut rfl
    refine ⟨_, header.trans (congrArg some (decode_laidOut laidOut)), length, ?_⟩
    rw [agree, length]
  · rw [sections, Image.read_limits, Image.read_data]
  · rw [problems, Image.read_limits]
    exact ⟨_, rfl, layoutProblems_ambiguous h⟩

/-- Headers of the narrow layout on a machine with wide addresses. Three data directories are
announced, and the declared size has room for two. -/
def smallHeader : Header where
  eLfanew := 64
  machine := 0x8664
  numberOfSections := 2
  timestamp := 0x5F3759DF
  pointerToSymbolTable := 0
  numberOfSymbols := 0
  sizeOfOptionalHeader := 0x74
  characteristics := 0x2002
  layout := .pe32
  optionalHeaderOffset := 88
  magic := 0x10B
  linkerVersion := ⟨14, 1⟩
  entryPoint := 0x1010
  imageBase := 0x400000
  sectionAlignment := 0x1000
  fileAlignment := 0x200
  osVersion := ⟨6, 0⟩
  imageVersion := ⟨1, 2⟩
  subsystemVersion := ⟨6, 1⟩
  sizeOfImage := 0x3000
  sizeOfHeaders := 0x200
  checksum := 0xFFFFFFFF
  subsystem := 2
  dllCharacteristics := 0x8140
  numberOfRvaAndSizes := 3
  directories := [⟨0x1000, 40⟩, ⟨0x2000, 60⟩, ⟨0x3000, 8⟩]

/-- Two section headers: one whose name has no zero byte, and one whose raw data is elsewhere. -/
def smallSections : List StoredSection :=
  [⟨#v[0x2E, 0x74, 0x65, 0x78, 0x74, 0x62, 0x73, 0xE9], 0x10, 0x1000, 16, 0x20, 0, 0, 0, 0, 0x60000020⟩,
    ⟨#v[0x2E, 0x64, 0, 0x78, 0, 0, 0, 0], 0x10, 0x2000, 0x200, 0xFFFFFE00, 0, 0, 0, 0, 0x40000040⟩]

/-- A buffer in which they stand. -/
def smallFile : Bytes := List.toArray <|
  [0x4D, 0x5A] ++ List.replicate 58 0 ++ (fieldBytes [⟨4, smallHeader.eLfanew⟩]).toList ++
    [0x50, 0x45, 0, 0] ++ (fieldBytes smallHeader.coffFields).toList ++
    (fieldBytes (smallHeader.optionalFields ⟨1, 2, 3, 4, 5, 6, 7, 8, 9, 10, 11⟩)).toList ++
    (fieldBytes ((smallHeader.directories.take 2).flatMap DataDirectory.fields)).toList ++
    [1, 2, 3, 4] ++ (sectionBytes smallSections).toList

theorem small_headers_are_read :
    LaidOut smallFile smallHeader ⟨1, 2, 3, 4, 5, 6, 7, 8, 9, 10, 11⟩ smallSections ∧
      ∃ i, Image.load smallFile .file { maxSections := 1 } = .ok i ∧
        i.ReadsHeaders smallHeader smallSections ∧
        i.sections.sections =
          [⟨0, ".textbs\uFFFD", 0x10, 0x1000, 16, 0x20, 0x60000020, true⟩] := by
  have laidOut : LaidOut smallFile smallHeader ⟨1, 2, 3, 4, 5, 6, 7, 8, 9, 10, 11⟩ smallSections := by
    constructor <;> decide +kernel
  obtain ⟨i, loaded, reads⟩ := laid_out_headers_are_read laidOut .file
    (show 0 ≤ ({ maxSections := 1 } : Limits).maxSections by decide) .standard
  refine ⟨laidOut, i, loaded, reads, ?_⟩
  have size : smallFile.size = 284 := by decide +kernel
  rw [reads.sections, Image.eq_read_of_load loaded, Image.read_limits, Image.read_data, size]
  decide +kernel

end Header

end PeFacts
