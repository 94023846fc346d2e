import PeFacts.Proofs.Acceptance.Problems
import PeFacts.Proofs.Stored.Field
import PeFacts.Proofs.Truncation

/-!
# Which buffers are images

A buffer is an image just when its headers are well formed, and a buffer that is none has no facts.
`Image.Refused` says so: one problem is noted, whatever is asked, and every answer is blank. The
headers of an image hold what stands at their fixed places (`Header.StoredIn`): no field is ever
missing, so no field ever counts as zero for that reason. Main result:
`well_formed_headers_make_an_image`.
-/

namespace PeFacts

namespace Header

/-! ## Well-formed headers -/

/-- The headers of an image stand in the buffer, as far as they have a fixed form. -/
structure WellFormed (data : Bytes) : Prop where
  dos : 64 ≤ data.size
  dosLetters : data.matchesAt #[0x4D, 0x5A] 0
  ntLetters : data.matchesAt #[0x50, 0x45, 0, 0] (data.number 0x3C 4)
  coff : data.number 0x3C 4 + 4 + 20 ≤ data.size
  /-- The magic number of the optional header decides how long its fixed part is. -/
  optional : data.number 0x3C 4 + 24 +
    (if data.number (data.number 0x3C 4 + 24) 2 = 0x20B then 0x70 else 0x60) ≤ data.size

instance (data : Bytes) : Decidable (WellFormed data) :=
  decidable_of_iff
    (64 ≤ data.size ∧ data.matchesAt #[0x4D, 0x5A] 0 ∧
      data.matchesAt #[0x50, 0x45, 0, 0] (data.number 0x3C 4) ∧
      data.number 0x3C 4 + 4 + 20 ≤ data.size ∧
      data.number 0x3C 4 + 24 +
        (if data.number (data.number 0x3C 4 + 24) 2 = 0x20B then 0x70 else 0x60) ≤ data.size)
    ⟨fun ⟨a, b, c, d, e⟩ => ⟨a, b, c, d, e⟩, fun h => ⟨h.1, h.2, h.3, h.4, h.5⟩⟩

theorem ofMagic_eq (magic : Nat) :
    HeaderLayout.ofMagic magic = if magic = 0x20B then .pe32Plus else .pe32 := rfl

theorem directoriesOffset_ofMagic (magic : Nat) :
    (HeaderLayout.ofMagic magic).directoriesOffset = if magic = 0x20B then 0x70 else 0x60 := by
  rw [ofMagic_eq]
  split <;> rfl

/-- Just the buffers with well-formed headers are accepted. -/
theorem wellFormed_iff {data : Bytes} :
    WellFormed data ↔ ∃ eLfanew layout, Accepted data eLfanew layout := by
  constructor
  · intro h
    refine ⟨_, _, h.dos, h.dosLetters, rfl, h.ntLetters, rfl, ?_⟩
    rw [directoriesOffset_ofMagic]
    exact h.optional
  · rintro ⟨eLfanew, layout, dos, dosLetters, rfl, ntLetters, rfl, fixed⟩
    rw [directoriesOffset_ofMagic] at fixed
    refine ⟨dos, dosLetters, ntLetters, ?_, fixed⟩
    exact Nat.le_trans (Nat.le_add_right _ _) fixed

/-- The new headers may begin inside the DOS header: the smallest image ends with their fixed part,
and without its last byte it is none. -/
example :
    let smallest : Bytes := #[0x4D, 0x5A, 0x50, 0x45, 0, 0] ++ Array.replicate 20 0 ++ #[0x0B, 0x01] ++
      Array.replicate 32 0 ++ #[2] ++ Array.replicate 61 0
    smallest.size = 122 ∧ WellFormed smallest ∧ ¬ WellFormed smallest.pop := by
  decide +kernel

/-- What keeps a buffer from being an image is a problem of that kind. -/
theorem kind_of_error {data : Bytes} {p : Problem} (found : Header.read data = .error p) :
    p.kind = .notPe := by
  rw [read_eq] at found
  dsimp only at found
  split at found
  · cases found
    rfl
  · iterate 5
      split at found
      · cases found
        rfl
    cases found

/-! ## Fields at their places -/

/-- The numbers of the headers with the places that the format gives them. -/
def placed (h : Header) : List (Nat × Field) :=
  let coff := h.eLfanew + 4
  let optional := h.eLfanew + 24
  let wide := h.magic = 0x20B
  [(0x3C, ⟨4, h.eLfanew⟩),
    (coff, ⟨2, h.machine⟩), (coff + 2, ⟨2, h.numberOfSections⟩), (coff + 4, ⟨4, h.timestamp⟩),
    (coff + 8, ⟨4, h.pointerToSymbolTable⟩), (coff + 12, ⟨4, h.numberOfSymbols⟩),
    (coff + 16, ⟨2, h.sizeOfOptionalHeader⟩), (coff + 18, ⟨2, h.characteristics⟩),
    (optional, ⟨2, h.magic⟩), (optional + 0x02, ⟨1, h.linkerVersion.major⟩),
    (optional + 0x03, ⟨1, h.linkerVersion.minor⟩), (optional + 0x10, ⟨4, h.entryPoint⟩),
    (optional + (if wide then 0x18 else 0x1C), ⟨if wide then 8 else 4, h.imageBase⟩),
    (optional + 0x20, ⟨4, h.sectionAlignment⟩), (optional + 0x24, ⟨4, h.fileAlignment⟩),
    (optional + 0x28, ⟨2, h.osVersion.major⟩), (optional + 0x2A, ⟨2, h.osVersion.minor⟩),
    (optional + 0x2C, ⟨2, h.imageVersion.major⟩), (optional + 0x2E, ⟨2, h.imageVersion.minor⟩),
    (optional + 0x30, ⟨2, h.subsystemVersion.major⟩),
    (optional + 0x32, ⟨2, h.subsystemVersion.minor⟩),
    (optional + 0x38, ⟨4, h.sizeOfImage⟩), (optional + 0x3C, ⟨4, h.sizeOfHeaders⟩),
    (optional + 0x40, ⟨4, h.checksum⟩), (optional + 0x44, ⟨2, h.subsystem⟩),
    (optional + 0x46, ⟨2, h.dllCharacteristics⟩),
    (optional + (if wide then 0x6C else 0x5C), ⟨4, h.numberOfRvaAndSizes⟩)]

/-- The headers hold what stands in the buffer. -/
structure StoredIn (data : Bytes) (h : Header) : Prop where
  /-- Every number can be read at its place. -/
  numbers : ∀ f ∈ h.placed, data.number? f.1 f.2.width = some f.2.value
  layout : h.layout = if h.magic = 0x20B then .pe32Plus else .pe32
  optionalHeaderOffset : h.optionalHeaderOffset = h.eLfanew + 24
  /-- And so can both numbers of every data directory. -/
  directories : ∀ k d, h.directories[k]? = some d →
    data.u32? (h.optionalHeaderOffset + (if h.magic = 0x20B then 0x70 else 0x60) + 8 * k) =
        some d.address ∧
      data.u32? (h.optionalHeaderOffset + (if h.magic = 0x20B then 0x70 else 0x60) + 8 * k + 4) =
        some d.size

theorem number?_of_room {data : Bytes} {off width : Nat} (room : off + width ≤ data.size) :
    data.number? off width = some (data.number off width) :=
  Bytes.number?_eq_some_iff.2 ⟨room, rfl⟩

theorem directoryTable_getElem? {data : Bytes} {off count k : Nat} {d : DataDirectory}
    (found : (directoryTable data off count)[k]? = some d) :
    k < count ∧ d.address = data.number (off + 8 * k) 4 ∧
      d.size = data.number (off + 8 * k + 4) 4 := by
  obtain ⟨there, value⟩ := List.getElem?_eq_some_iff.1 found
  have few : k < count := by simpa [directoryTable] using there
  refine ⟨few, ?_⟩
  rw [← value]
  simp [directoryTable]

/-- The fixed part of accepted headers is inside the buffer, and so are their data directories. -/
theorem Accepted.storedIn {data : Bytes} {eLfanew : Nat} {layout : HeaderLayout}
    (accepted : Accepted data eLfanew layout) : StoredIn data (decode data eLfanew layout) := by
  obtain ⟨dos, -, located, -, selected, fixed⟩ := accepted
  have dos : 64 ≤ data.size := dos
  have located : data.number 0x3C 4 = eLfanew := located
  have count : layout.directoryCountOffset + 4 = layout.directoriesOffset := by cases layout <;> rfl
  have base : layout.imageBaseOffset + layout.imageBaseSize ≤ 0x60 := by cases layout <;> decide
  have large : 0x60 ≤ layout.directoriesOffset := by cases layout <;> decide
  have wide : data.number (eLfanew + 24) 2 = 0x20B ↔ layout = .pe32Plus := by
    rw [← selected, ofMagic_eq]
    split
    · simpa
    · simpa
  have tableOffset : (if layout = .pe32Plus then 0x70 else 0x60) = layout.directoriesOffset := by
    cases layout <;> rfl
  have countOffset : (if layout = .pe32Plus then 0x6C else 0x5C) = layout.directoryCountOffset := by
    cases layout <;> rfl
  have baseOffset : (if layout = .pe32Plus then 0x18 else 0x1C) = layout.imageBaseOffset := by
    cases layout <;> rfl
  have baseSize : (if layout = .pe32Plus then 8 else 4) = layout.imageBaseSize := by
    cases layout <;> rfl
  constructor
  · simp (disch := omega) only [placed, decode, versionAt, coffSize, checksumFieldOffset,
      Nat.add_assoc, Nat.reduceAdd, wide, countOffset, baseOffset, baseSize, List.forall_mem_cons,
      number?_of_room]
    simp [located]
  · simp only [decode, coffSize, Nat.add_assoc, Nat.reduceAdd, wide]
    cases layout <;> rfl
  · rfl
  · intro k d found
    simp only [decode, coffSize, Nat.add_assoc, Nat.reduceAdd, wide, tableOffset] at found ⊢
    obtain ⟨few, address, size⟩ := directoryTable_getElem? found
    have inside := @directoryCount_inside data (eLfanew + 24) (data.number (eLfanew + 20) 2) layout
      (data.number (eLfanew + (24 + layout.directoryCountOffset)) 4) (by omega)
    simp only [← Nat.add_assoc] at few address size inside ⊢
    rw [address, size]
    exact ⟨number?_of_room (by omega), number?_of_room (by omega)⟩

end Header

/-! ## Buffers that are no image -/

/-- A value that says nothing: none, no, zero, or without any part that says something. -/
inductive Value.Blank : Value → Prop
  | null : Blank .null
  | no : Blank (.bool false)
  | zero : Blank (.int 0)
  | empty : Blank (.list [])
  | record {entries : List (String × Value)} (each : ∀ e ∈ entries, Blank e.2) :
    Blank (.record entries)

/-- The query is about what was read in the buffer, and has an answer even if there is nothing. -/
def Query.isParsed : Query → Bool
  | .fact .mode | .fact .isMapped | .fact .data | .fact .errors | .imphash | .snapshot => false
  | q => !q.ofPart

/-- What a directory holds that is not there. -/
def Directory.nothing : (d : Directory) → d.Content
  | .imports => {}
  | .exports => {}
  | .resources => {}
  | .versionInfo => []
  | .signatures => []
  | .rich => none
  | .pdbPath => none

/-- The buffer is no image: there is one reason, and there are no facts. -/
structure Image.Refused (i : Image) : Prop where
  header : i.header? = none
  sections : i.sections.sections = []
  /-- The reason is noted at first, and no access ever adds to it. -/
  reason : ∃ p : Problem, p.kind = .notPe ∧ ∀ past,
    (i.after past).problems = [p] ∧
      (i.ask (.fact .errors) (i.after past)).1 = .ok (.list [p.record])
  blank : ∀ past q, q.isParsed → ∃ v, (i.ask q (i.after past)).1 = .ok v ∧ v.Blank
  /-- No part of the headers or of the section table is there. -/
  parts : ∀ past q, q.ofPart → (∀ name, q ≠ .constant name) →
    ∃ fault ∈ [AccessFault.noHeader, .noSection], (i.ask q (i.after past)).1 = .error fault
  imphash : ∀ past, (i.ask .imphash (i.after past)).1 = .ok (.text (Digest.md5 #[]))
  snapshot : ∀ past, (i.ask .snapshot (i.after past)).1 =
    .ok (.record [("present", .bool false), ("mode", .text i.mode.name)])

namespace Image

variable {i : Image}

theorem directory_of_no_header (none : i.header? = none) (index : Nat) :
    i.directory index = ⟨0, 0⟩ := by
  rw [directory, none, Option.elim_none]

/-- Without headers no directory holds anything, and none has a problem. -/
theorem holding_of_no_header (none : i.header? = none) (d : Directory) :
    i.holding d = .ok (d.nothing, []) := by
  have isPe : i.isPe = false := by rw [Image.isPe, none, Option.isSome_none]
  cases d with
  | imports => simp [holding, readImports, none, Directory.nothing]
  | exports => simp [holding, readExports, directory_of_no_header none, Directory.nothing]
  | resources => simp [holding, readResources, directory_of_no_header none, Directory.nothing]
  | versionInfo => simp [holding, readVersionInfo, isPe, Directory.nothing]
  | signatures =>
    simp [holding, readSignatures, directory_of_no_header none, Directory.nothing, Except.mapError]
  | rich => simp [holding, readRich, none, Directory.nothing]
  | pdbPath => simp [holding, readPdbPath, directory_of_no_header none, Directory.nothing]

/-- Whatever is asked, nothing is added to the problems that were noted at first. -/
theorem problems_of_no_header (none : i.header? = none) (past : List Query) :
    (i.after past).problems = i.problems := by
  have empty : (i.order past).flatMap i.block = [] := by
    rw [List.flatMap_eq_nil_iff]
    intro d hd
    rw [block, holding_of_no_header none]
  rw [(tracks_after i past).problems, empty, List.append_nil]

end Image

theorem ExportTable.blank_toValue : Value.Blank (ExportTable.toValue {}) := by
  apply Value.Blank.record
  simp only [List.forall_mem_cons]
  exact ⟨.no, .null, .null, .zero, .zero, .zero, .empty, .empty, nofun⟩

namespace ResourceIndex

theorem locales_empty : locales {} = [] := by
  simp only [locales, sortedDistinct, List.filterMap_nil, List.mergeSort_nil]
  rfl

theorem languages_empty : languages {} = [] := by
  simp only [languages, locales_empty, sortedDistinct, List.map_nil, List.mergeSort_nil]
  rfl

theorem blank_toValue : Value.Blank (ResourceIndex.toValue {}) := by
  apply Value.Blank.record
  simp only [List.forall_mem_cons, locales_empty, languages_empty]
  exact ⟨.empty, .zero, .null, .null, .null, .empty, .empty, nofun⟩

end ResourceIndex

namespace Image

/-- A number that is computed from the headers is missing. -/
theorem blank_guarded {i : Image} {x : Guarded (Option Nat)} {n? : Option Nat}
    (yields : Guarded.Yields i.sections x n?) (missing : n? = none)
    (past : List Query) :
    ∃ v, ((do return .option .nat (← Session.guarded x) : Access Value).run.run (i.after past)).1 =
      .ok v ∧ v.Blank := by
  subst missing
  have gives := (Gives.guarded yields).map (Value.option Value.nat)
  exact ⟨_, gives.run_after past, .null⟩

section NoHeader

variable {i : Image} (none : i.header? = none) (past : List Query)

include none

theorem headerValue_of_no_header (field : Header → Value) : i.headerValue field = .null := by
  rw [headerValue, none]
  rfl

/-- What is computed from an empty directory says nothing. -/
theorem blank_view (d : Directory) {f : d.Content → Value} (blank : (f d.nothing).Blank) :
    ∃ v, ((do return f (← i.content d) : Access Value).run.run (i.after past)).1 = .ok v ∧
      v.Blank := by
  have run := run_view i d f past
  rw [holding_of_no_header none] at run
  exact ⟨_, run, blank⟩

theorem blank_fact (empty : i.sections.sections = []) {f : Fact} (parsed : (Query.fact f).isParsed) :
    ∃ v, ((i.fact f).run.run (i.after past)).1 = .ok v ∧ v.Blank := by
  cases f with
  | mode | isMapped | data | errors => cases parsed
  | isPe =>
    refine ⟨.bool i.isPe, rfl, ?_⟩
    rw [Image.isPe, none]
    exact .no
  | dataDirectories =>
    refine ⟨_, rfl, ?_⟩
    rw [none]
    exact .empty
  | sections =>
    refine ⟨_, rfl, ?_⟩
    rw [empty]
    exact .empty
  | overlay =>
    refine ⟨_, rfl, ?_⟩
    rw [Image.overlay?, none]
    exact .null
  | entryPoint =>
    refine blank_guarded i.yields_entryPoint ?_ past
    rw [Image.entryPoint?, none]
    rfl
  | importTable => exact blank_view none past .imports .empty
  | numberOfImports | numberOfImportedFunctions => exact blank_view none past .imports .zero
  | exportTable => exact blank_view none past .exports ExportTable.blank_toValue
  | numberOfExports => exact blank_view none past .exports .zero
  | dllName | exportTimestamp => exact blank_view none past .exports .null
  | resourceIndex => exact blank_view none past .resources ResourceIndex.blank_toValue
  | resources => exact blank_view none past .resources .empty
  | numberOfResources => exact blank_view none past .resources .zero
  | versionInfo => exact blank_view none past .versionInfo (.record (List.forall_mem_nil _))
  | signatures => exact blank_view none past .signatures .empty
  | numberOfSignatures => exact blank_view none past .signatures .zero
  | isSigned => exact blank_view none past .signatures .no
  | richSignature => exact blank_view none past .rich .null
  | pdbPath => exact blank_view none past .pdbPath .null
  | _ => exact ⟨_, rfl, headerValue_of_no_header none _ ▸ .null⟩

theorem blank_query (empty : i.sections.sections = []) {q : Query} (parsed : q.isParsed) :
    ∃ v, (i.ask q (i.after past)).1 = .ok v ∧ v.Blank := by
  unfold Image.ask
  cases q with
  | fact f => exact blank_fact none past empty parsed
  | imphash | snapshot => cases parsed
  | constant _ | directory _ | layout | headerField _ | mappedSize _ | sectionContains _ _ =>
    cases parsed
  | isDll =>
    refine ⟨.bool i.isDll, rfl, ?_⟩
    rw [Image.isDll, none]
    exact .no
  | is32Bit =>
    refine ⟨.bool i.is32Bit, rfl, ?_⟩
    rw [Image.is32Bit, none]
    exact .no
  | is64Bit =>
    refine ⟨.bool i.is64Bit, rfl, ?_⟩
    rw [Image.is64Bit, none]
    exact .no
  | sectionIndex key =>
    refine ⟨_, rfl, ?_⟩
    cases key with
    | name s =>
      rw [Image.sectionIndex?, SectionTable.indexOf?, empty]
      exact .null
    | rva n =>
      rw [Image.sectionIndex?, SectionTable.sectionFor?, empty]
      exact .null
  | offset rva =>
    refine blank_guarded (i.yields_offset rva) ?_ past
    rw [Image.offset?, none]
    rfl
  | calculatedChecksum =>
    refine blank_guarded i.yields_checksum ?_ past
    rw [Image.checksum?, none]
    rfl
  | exports key =>
    refine blank_view none past .exports ?_
    cases key <;> exact .no
  | imports _ _ => exact blank_view none past .imports .no
  | importFunctions => exact blank_view none past .imports .empty
  | locale id =>
    refine blank_view none past .resources ?_
    rw [ResourceIndex.hasLocale, Directory.nothing, ResourceIndex.locales_empty]
    exact .no
  | language id =>
    refine blank_view none past .resources ?_
    rw [ResourceIndex.hasLanguage, Directory.nothing, ResourceIndex.languages_empty]
    exact .no
  | firstOfType _ => exact blank_view none past .resources .null
  | richVersion _ _ | richTool _ _ => exact blank_view none past .rich .null
  | validOn _ => exact blank_view none past .signatures .empty
  | analyze =>
    have gives := (gives_forM i Directory.all).map fun _ => Value.null
    rw [Image.outcome, if_pos (Directory.mem_all _), holding_of_no_header none] at gives
    exact ⟨_, gives.run_after past, .null⟩

theorem parts_of_no_header (empty : i.sections.sections = []) {q : Query} (part : q.ofPart)
    (buffer : ∀ name, q ≠ .constant name) :
    ∃ fault ∈ [AccessFault.noHeader, .noSection], (i.ask q (i.after past)).1 = .error fault := by
  have header : i.requiredHeader = throw .noHeader := by rw [requiredHeader, none]
  have noSection (index : Int) : i.requiredSection index = throw .noSection := by
    simp [requiredSection, SectionTable.item?, empty]
  unfold Image.ask
  cases q with
  | constant name => exact absurd rfl (buffer name)
  | directory _ | layout | headerField _ =>
    refine ⟨.noHeader, by simp, ?_⟩
    rw [Image.answer, header]
    rfl
  | mappedSize _ | sectionContains _ _ =>
    refine ⟨.noSection, by simp, ?_⟩
    rw [Image.answer, noSection]
    rfl
  | _ => cases part

end NoHeader

section Read

variable {data : Bytes} (mode : ScanMode) (limits : Limits) (reader : SignatureReader)

theorem read_problems_of_error {p : Problem} (found : Header.read data = .error p) :
    (read data mode limits reader).problems = [p] := by
  unfold read
  rw [found]

theorem read_problems_of_ok {h : Header} {ps : List Problem}
    (found : Header.read data = .ok (h, ps)) :
    (read data mode limits reader).problems =
      ps ++ (Section.readAll data h limits.maxSections).2 := by
  unfold read
  rw [found]

/-- A buffer whose headers cannot be read has no facts. -/
theorem refused_of_error {p : Problem} (found : Header.read data = .error p) :
    (read data mode limits reader).Refused := by
  obtain ⟨none, empty⟩ := read_of_error mode limits reader found
  have problems (past : List Query) :
      ((read data mode limits reader).after past).problems = [p] := by
    rw [problems_of_no_header none, read_problems_of_error mode limits reader found]
  constructor
  · exact none
  · exact empty
  · refine ⟨p, Header.kind_of_error found, fun past => ⟨problems past, ?_⟩⟩
    rw [ask_errors, problems, List.map_singleton]
  · exact fun past q parsed => blank_query none past empty parsed
  · exact fun past q part buffer => parts_of_no_header none past empty part buffer
  · intro past
    have gives := (gives_view (read data mode limits reader) .imports
      fun t => Imphash.digest t.dlls).map Value.text
    rw [holding_of_no_header none] at gives
    exact gives.run_after past
  · intro past
    rw [Image.ask, Image.answer, Image.snapshot, none]
    rfl

/-- The headers of an image are those that stand in the buffer, and whatever is met in reading the
rest of it leaves it an image. -/
theorem facts_of_accepted {eLfanew : Nat} {layout : HeaderLayout}
    (accepted : Header.Accepted data eLfanew layout) :
    ∃ h, (read data mode limits reader).header? = some h ∧ h.StoredIn data ∧
      ∀ past, AllMinor ((read data mode limits reader).after past).problems := by
  have found := accepted.read
  refine ⟨_, (read_of_ok mode limits reader found).1, accepted.storedIn, fun past => ?_⟩
  apply minor_after
  rw [read_problems_of_ok mode limits reader found]
  exact .append (Header.minor_problems data _) (Section.minor_readAll data _ _)

/-- Just what is accepted is an image. -/
theorem isPe_read : (read data mode limits reader).isPe ↔ Header.WellFormed data := by
  rw [Header.wellFormed_iff]
  constructor
  · intro image
    cases found : Header.read data with
    | error p =>
      rw [isPe, (read_of_error mode limits reader found).1] at image
      cases image
    | ok reading =>
      obtain ⟨eLfanew, layout, accepted, -⟩ := Header.Accepted.of_read (h := reading.1) found
      exact ⟨eLfanew, layout, accepted⟩
  · rintro ⟨eLfanew, layout, accepted⟩
    rw [isPe, (read_of_ok mode limits reader accepted.read).1]
    rfl

end Read

end Image

/-- Just the buffers with well-formed headers are images. One that is none has a single problem and
no facts; the headers of one that is say what stands in the buffer, and no problem that is noted in
the course of any accesses makes it less of an image. -/
theorem well_formed_headers_make_an_image (data : Bytes) (mode : ScanMode) (limits : Limits)
    (reader : SignatureReader) :
    ∃ i, Image.load data mode limits reader = .ok i ∧ (i.isPe ↔ Header.WellFormed data) ∧
      (¬ i.isPe → i.Refused) ∧
      (i.isPe → ∃ h, i.header? = some h ∧ h.StoredIn data ∧
        ∀ past, ∀ p ∈ (i.after past).problems, p.kind ≠ .notPe) := by
  refine ⟨_, Image.load_eq data mode limits reader, Image.isPe_read mode limits reader, ?_, ?_⟩
  · intro other
    cases found : Header.read data with
    | error p => exact Image.refused_of_error mode limits reader found
    | ok reading =>
      rw [Image.isPe, (Image.read_of_ok mode limits reader (h := reading.1) found).1] at other
      exact absurd rfl other
  · intro image
    obtain ⟨eLfanew, layout, accepted⟩ :=
      Header.wellFormed_iff.1 ((Image.isPe_read mode limits reader).1 image)
    exact Image.facts_of_accepted mode limits reader accepted

/-- The hash of the import table of a buffer that is no image is that of no bytes. -/
example : Digest.md5 #[] = "d41d8cd98f00b204e9800998ecf8427e" := by decide +kernel

end PeFacts
