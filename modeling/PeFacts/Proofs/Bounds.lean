import Mathlib
import PeFacts.Proofs.Reading
import PeFacts.Proofs.Resource.Loop
import PeFacts.Proofs.Session
import PeFacts.Proofs.Signature.Table

/-!
# How much is found

The counts that stand in an image go up to `2 ^ 32 - 1`, so only the limits say how much is found in
it. Sections and exports are counted off before they are read, imports grow by one item in a round
(`Reading.Grows`), leaves are paid for with nodes, and pairs and signatures are kept only while there
is room. `results_are_within_limits` says it of everything that an image gives.
-/

namespace PeFacts

/-! ## Texts -/

/-- Each character takes a unit or more. -/
theorem length_utf16Chars (bytes : List UInt8) :
    2 * (utf16Chars bytes).length ≤ bytes.length + 1 := by
  fun_induction utf16Chars bytes with
  | case1 => exact Nat.zero_le _
  | case2 => exact Nat.le_refl _
  | case3 | case4 | case5 | case6 | case7 =>
    simp only [List.length_cons, List.length_nil] at *
    omega

namespace Bytes

variable {data : Bytes} {off : Nat} {text : String}

/-- The text is decoded from the units whose count stands at `off`. -/
structure Counted (data : Bytes) (off count : Nat) (text : String) : Prop where
  counts : data.u16? off = some count
  inside : off + 2 + count * 2 ≤ data.size
  decoded : text = utf16Text (data.extract (off + 2) (off + 2 + count * 2))

theorem counted_of_utf16Counted? {maxChars : Int}
    (found : data.utf16Counted? off maxChars = some text) :
    ∃ count : Nat, (count : Int) ≤ maxChars ∧ data.Counted off count text := by
  unfold utf16Counted? at found
  simp only [Option.bind_eq_bind, Option.bind_eq_some_iff] at found
  obtain ⟨count, stands, found⟩ := found
  split at found
  · cases found
  next few =>
    obtain ⟨part, span, rfl⟩ := Option.map_eq_some_iff.1 found
    obtain ⟨inside, rfl⟩ := span?_eq_some_iff.1 span
    exact ⟨count, Int.not_lt.1 few, stands, inside, rfl⟩

/-- A text has no more characters than it takes units. -/
theorem Counted.length_le {count : Nat} (h : data.Counted off count text) : text.length ≤ count := by
  have units := length_utf16Chars (data.extract (off + 2) (off + 2 + count * 2)).toList
  have taken : (data.extract (off + 2) (off + 2 + count * 2)).toList.length ≤ count * 2 := by
    rw [Array.length_toList, Array.size_extract]
    omega
  rw [h.decoded, utf16Text, String.length_ofList]
  omega

end Bytes

/-! ## Sections -/

namespace Section

theorem length_readFrom_le (data : Bytes) (index off count : Nat) :
    (readFrom data index off count).1.length ≤ count := by
  induction count generalizing index off with
  | zero => exact Nat.le_refl _
  | succ count ih =>
    rw [readFrom]
    split
    · exact Nat.succ_le_succ (ih (index + 1) (off + headerSize))
    · exact Nat.zero_le _

theorem length_readAll_le (data : Bytes) (h : Header) (limit : Int) :
    ((readAll data h limit).1.length : Int) ≤ max 0 limit ∧
      (readAll data h limit).1.length ≤ h.numberOfSections := by
  unfold readAll
  split
  · have few := length_readFrom_le data 0 h.sectionTableOffset limit.toNat
    dsimp only
    omega
  · have few := length_readFrom_le data 0 h.sectionTableOffset h.numberOfSections
    omega

end Section

/-! ## Imports -/

namespace ImportTable

/-- An import table is within the limits. -/
structure Within (limits : Limits) (t : ImportTable) : Prop where
  few : (t.dlls.length : Int) ≤ max 0 limits.maxImportDlls
  dlls : ∀ d ∈ t.dlls, d.Within limits

theorem within_empty (limits : Limits) : Within limits {} where
  few := Int.le_max_left ..
  dlls := nofun

theorem within_read (src : Source) (rva : Nat) : (read src rva).1.Within src.limits := by
  unfold read
  split
  · exact within_empty _
  next off _ =>
    split
    · exact within_empty _
    · have grows := src.grows_descriptorsFrom off src.limits.maxImportDlls.toNat {}
      refine ⟨?_, fun d there => (grows.each d there).within⟩
      have few := grows.length_le
      dsimp only
      omega

end ImportTable

/-! ## Exports -/

namespace ExportTable

/-- An export table is within the limits. -/
structure Within (limits : Limits) (t : ExportTable) : Prop where
  fewNames : (t.names.length : Int) ≤ max 0 limits.maxExports
  fewOrdinals : (t.ordinals.length : Int) ≤ max 0 limits.maxExports
  names : ∀ name ∈ t.names, limits.Admits name
  dllName : ∀ name, t.dllName? = some name → limits.Admits name

theorem clampCount_le (announced : Nat) (limit : Int) :
    (clampCount announced limit).1 ≤ limit.toNat := by
  unfold clampCount
  split
  · exact Nat.le_refl _
  · dsimp only
    omega

variable {data : Bytes} {sections : SectionTable} {limits : Limits}

theorem length_of_tableSlots? {rva count : Nat} {found : List Nat}
    (read : tableSlots? data sections rva count = some found) : found.length ≤ count := by
  unfold tableSlots? at read
  split at read
  · cases read
  · obtain ⟨off, -, rfl⟩ := Option.map_eq_some_iff.1 read
    rw [slots, List.length_map, List.length_range]
    exact Nat.min_le_left ..

theorem length_readOrdinals_le (base announced rva : Nat) (limit : Int) :
    ((readOrdinals data sections base announced rva limit).1.length : Int) ≤ max 0 limit := by
  have clamped := clampCount_le announced limit
  unfold readOrdinals
  dsimp only
  split
  · exact Int.le_max_left ..
  · split
    · exact Int.le_max_left ..
    next found read =>
      have few := length_of_tableSlots? read
      refine Int.le_trans (Int.ofNat_le.2 (List.length_filterMap_le ..)) ?_
      rw [List.length_zipIdx]
      omega

theorem admits_of_text? {rva : Nat} {name : String}
    (found : text? data sections limits rva = some name) : limits.Admits name := by
  obtain ⟨off, -, read⟩ := Option.bind_eq_some_iff.1 found
  exact Bytes.admits_of_cString? read

theorem within_readNames (data : Bytes) (sections : SectionTable) (limits : Limits)
    (announced namesRva ordinalsRva : Nat) :
    ((readNames data sections limits announced namesRva ordinalsRva).1.length : Int) ≤
        max 0 limits.maxExports ∧
      ∀ name ∈ (readNames data sections limits announced namesRva ordinalsRva).1,
        limits.Admits name := by
  have clamped := clampCount_le announced limits.maxExports
  unfold readNames
  dsimp only
  split
  · exact ⟨Int.le_max_left .., nofun⟩
  · split
    · exact ⟨Int.le_max_left .., nofun⟩
    next found read =>
      have few := length_of_tableSlots? read
      constructor
      · refine Int.le_trans (Int.ofNat_le.2 (List.length_filterMap_le ..)) ?_
        rw [List.length_map]
        omega
      · intro name there
        obtain ⟨slot, there, named⟩ := List.mem_filterMap.1 there
        obtain ⟨rva, -, rfl⟩ := List.mem_map.1 there
        rw [name?, Option.filter_eq_some_iff] at named
        exact admits_of_text? named.1

theorem within_empty (limits : Limits) : Within limits {} where
  fewNames := Int.le_max_left ..
  fewOrdinals := Int.le_max_left ..
  names := nofun
  dllName := nofun

theorem within_read (data : Bytes) (sections : SectionTable) (limits : Limits) (rva : Nat) :
    (read data sections limits rva).1.Within limits := by
  unfold read
  split
  · exact within_empty _
  next off _ =>
    split
    · exact within_empty _
    · have names := within_readNames data sections limits (data.number (off + 24) 4)
        (data.number (off + 32) 4) (data.number (off + 36) 4)
      refine ⟨names.1, length_readOrdinals_le .., names.2, fun name named => ?_⟩
      dsimp only at named
      split at named
      · cases named
      · exact admits_of_text? named

end ExportTable

/-! ## Resources -/

/-- The name of the key, if it has one, is decoded from no more units than the limits allow. -/
def ResourceKey.Within (data : Bytes) (limits : Limits) (key : ResourceKey) : Prop :=
  ∀ name, key.name? = some name → ∃ off count : Nat, (count : Int) ≤ limits.maxNameLength ∧
    data.Counted off count name ∧ name.length ≤ count

namespace ResourceIndex

/-- A resource index is within the limits. -/
structure Within (data : Bytes) (limits : Limits) (index : ResourceIndex) : Prop where
  few : (index.entries.length : Int) ≤ max 0 limits.maxResourceNodes
  deep : limits.maxResourceDepth < 3 → index.entries = []
  keys : ∀ e ∈ index.entries, e.type.Within data limits ∧ e.name.Within data limits

theorem Source.within_key (src : Source) (raw : Nat) :
    (src.key raw).Within src.data src.limits := by
  intro name named
  unfold Source.key at named
  split at named
  · obtain ⟨count, few, counted⟩ := Bytes.counted_of_utf16Counted? named
    exact ⟨_, count, few, counted, counted.length_le⟩
  · cases named

/-- The keys that lead to a directory are keys of entries. -/
theorem Source.Leads.within {src : Source} {b : Branch} (h : src.Leads b) :
    ∀ key ∈ b.path, key.Within src.data src.limits := by
  induction h with
  | root => exact nofun
  | @down b c _ there ih =>
    obtain ⟨raw, path⟩ := path_of_mem_below there
    rw [path]
    intro key met
    rcases List.mem_append.1 met with before | now
    · exact ih key before
    · cases List.mem_singleton.1 now
      exact src.within_key raw

theorem within_empty (data : Bytes) (limits : Limits) : Within data limits {} where
  few := Int.le_max_left ..
  deep _ := rfl
  keys := nofun

theorem within_read (data : Bytes) (sections : SectionTable) (limits : Limits) (rva : Nat) :
    (read data sections limits rva).1.Within data limits := by
  rw [read_eq_traversed]
  unfold traversed
  split
  · exact within_empty _ _
  next base _ =>
    have sound := sound_traversal ⟨data, sections, limits, base⟩
    refine ⟨?_, fun shallow => ?_, fun e there => ?_⟩
    · have few := Nat.le_trans sound.leaves sound.few
      dsimp only at few ⊢
      omega
    · by_contra some_leaf
      have deep := sound.deep some_leaf
      dsimp only at deep
      omega
    · obtain ⟨b, i, raw, target, leaf⟩ := sound.each e there
      have keys := leaf.leads.within
      rw [leaf.path] at keys
      exact ⟨keys e.type (by simp), keys e.name (by simp)⟩

end ResourceIndex

/-! ## Version information -/

namespace VersionInfo

/-- A pair is kept only while there is room for it. -/
theorem few_keepValue (data : Bytes) {bounds : Bounds} (b : Block) {pairs : Pairs}
    (few : (pairs.found.size : Int) ≤ max 0 bounds.maxPairs) :
    ((keepValue data bounds b pairs).found.size : Int) ≤ max 0 bounds.maxPairs := by
  unfold keepValue
  split
  next kept =>
    simp only [Bool.and_eq_true, decide_eq_true_eq] at kept
    rw [Reading.keep, Array.size_push]
    omega
  · exact few

theorem length_read_le (data : Bytes) (bounds : Bounds) :
    ((read data bounds).1.length : Int) ≤ max 0 bounds.maxPairs := by
  unfold read
  split
  · exact Int.le_max_left ..
  next root _ =>
    split
    · exact Int.le_max_left ..
    · split
      · have few := blocks_keeps (I := fun pairs => (pairs.found.size : Int) ≤ max 0 bounds.maxPairs)
          (fun b pairs few => few_keepValue data b few) (fun _ few => few) (maxNesting + 1)
          root.childrenOffset root.stop {} (Int.le_max_left ..)
        simpa [sortPairs] using few
      · exact Int.le_max_left ..

theorem length_ofResources_le (data : Bytes) (index : ResourceIndex) (limit : Int) :
    (ofResources data index limit).1.length ≤ 200 := by
  unfold ofResources
  split
  · exact Nat.zero_le _
  next leaf _ =>
    split
    · exact Nat.zero_le _
    · split
      · exact Nat.zero_le _
      next off _ =>
        have few := length_read_le (data.clamped off (min (leaf.size : Int) limit).toNat) {}
        exact Int.ofNat_le.1 few

end VersionInfo

/-! ## The path of the program database -/

namespace Debug

theorem admits_of_path? {data : Bytes} {off : Nat} {limits : Limits} {path : String}
    (found : path? data off limits.maxNameLength = some path) : limits.Admits path := by
  simp only [path?, Option.bind_eq_bind, Option.bind_eq_some_iff] at found
  obtain ⟨start, -, text, read, kept⟩ := found
  split at kept
  · cases kept
  · cases kept
    exact Bytes.admits_of_cString? read

theorem admits_of_pathFrom {data : Bytes} {mapped : Bool} {limits : Limits} {index off left : Nat}
    {path : String}
    (found : (pathFrom data mapped limits.maxNameLength index off left).1 = some path) :
    limits.Admits path := by
  induction left generalizing index off with
  | zero => cases found
  | succ left ih =>
    rw [pathFrom] at found
    split at found
    · cases found
    · dsimp only at found
      split at found
      next usable =>
        cases found
        split at usable
        · obtain ⟨record, -, read⟩ := Option.bind_eq_some_iff.1 usable
          exact admits_of_path? read
        · cases usable
      · exact ih found

theorem admits_of_pdbPath {data : Bytes} {sections : SectionTable} {directory : DataDirectory}
    {limits : Limits} {path : String}
    (found : (pdbPath data sections directory limits.maxNameLength).1 = some path) :
    limits.Admits path := by
  unfold pdbPath at found
  split at found
  · cases found
  · exact admits_of_pathFrom found

end Debug

/-! ## Images -/

namespace Image

theorem length_sections_le (data : Bytes) (mode : ScanMode) (limits : Limits)
    (reader : SignatureReader) :
    ((read data mode limits reader).sections.sections.length : Int) ≤ max 0 limits.maxSections ∧
      (read data mode limits reader).sections.sections.length ≤
        (read data mode limits reader).header?.elim 0 (·.numberOfSections) := by
  unfold read
  split
  · exact ⟨Int.le_max_left .., Nat.zero_le _⟩
  next header _ _ => exact Section.length_readAll_le data header limits.maxSections

variable (i : Image)

theorem within_readImports : i.readImports.1.Within i.limits := by
  unfold readImports
  split
  · exact ImportTable.within_empty _
  · dsimp only
    split
    · exact ImportTable.within_empty _
    · exact ImportTable.within_read ⟨i.data, _, i.sections, i.limits⟩ _

theorem within_readExports : i.readExports.1.Within i.limits := by
  unfold readExports
  dsimp only
  split
  · exact ExportTable.within_empty _
  · exact ExportTable.within_read ..

theorem within_readResources : i.readResources.1.Within i.data i.limits := by
  unfold readResources
  dsimp only
  split
  · exact ResourceIndex.within_empty _ _
  · exact ResourceIndex.within_read ..

theorem length_readVersionInfo_le (index : ResourceIndex) :
    (i.readVersionInfo index).1.length ≤ 200 := by
  unfold readVersionInfo
  split
  · exact VersionInfo.length_ofResources_le ..
  · exact Nat.zero_le _

theorem admits_of_readPdbPath {path : String} (found : i.readPdbPath.1 = some path) :
    i.limits.Admits path := by
  unfold readPdbPath at found
  dsimp only at found
  split at found
  · cases found
  · exact Debug.admits_of_pdbPath found

/-- The signatures cannot be read, or there are no more than are kept. -/
theorem length_of_readSignatures {found : List SignatureRecord × List Problem}
    (read : i.readSignatures = .ok found) : found.1.length ≤ 64 := by
  rw [readSignatures_eq] at read
  cases run : i.met.foldlM Walked.step {} with
  | error fault => rw [run] at read; cases read
  | ok w =>
    rw [run] at read
    cases read
    exact bounded_of_run run (Nat.zero_le _)

/-- After any queries the access gives something with the property. -/
def Finds {α : Type} (past : List Query) (x : Access α) (P : α → Prop) : Prop :=
  ∃ a, (x.run.run (i.after past)).1 = .ok a ∧ P a

/-- What is found in an image, whatever was asked before, is within the limits that it is read
with. -/
structure WithinLimits (past : List Query) : Prop where
  sections : (i.sections.sections.length : Int) ≤ max 0 i.limits.maxSections
  announced : i.sections.sections.length ≤ i.header?.elim 0 (·.numberOfSections)
  imports : i.Finds past i.importTable (·.Within i.limits)
  exports : i.Finds past i.exportTable (·.Within i.limits)
  resources : i.Finds past i.resourceIndex (·.Within i.data i.limits)
  versionInfo : i.Finds past i.versionInfo (·.length ≤ 200)
  signatures : i.Finds past i.signatures (·.length ≤ 64) ∨
    ∃ fault, (i.signatures.run.run (i.after past)).1 = .error (.signatures fault)
  pdbPath : i.Finds past i.pdbPath fun path? => ∀ path, path? = some path → i.limits.Admits path

end Image

/-- Whatever the bytes and the limits are, everything that is found is within the limits. -/
theorem results_are_within_limits (data : Bytes) (mode : ScanMode) (limits : Limits)
    (reader : SignatureReader) (past : List Query) :
    ∃ i, Image.load data mode limits reader = .ok i ∧ i.data = data ∧ i.limits = limits ∧
      i.WithinLimits past := by
  have sections := Image.length_sections_le data mode limits reader
  have same : (Image.read data mode limits reader).limits = limits := Image.read_limits ..
  refine ⟨_, Image.load_eq .., Image.read_data .., same, ?_⟩
  generalize Image.read data mode limits reader = i at sections same
  subst same
  have given {d : Directory} {a : d.Content} {problems : List Problem} {P : d.Content → Prop}
      (holds : i.holding d = .ok (a, problems)) (within : P a) : i.Finds past (i.content d) P := by
    refine ⟨a, ?_, within⟩
    rw [(gives_content i d).run_after past, holds]
    rfl
  exact {
    sections := sections.1
    announced := sections.2
    imports := given rfl i.within_readImports
    exports := given rfl i.within_readExports
    resources := given rfl i.within_readResources
    versionInfo := given rfl (i.length_readVersionInfo_le _)
    signatures := by
      cases read : i.readSignatures with
      | ok found =>
        have holds : i.holding .signatures = .ok (found.1, found.2) := by
          rw [Image.holding, read]
          rfl
        exact .inl (given holds (i.length_of_readSignatures read))
      | error fault =>
        refine .inr ⟨fault, ?_⟩
        rw [Image.signatures, (gives_content i .signatures).run_after past, Image.holding, read]
        rfl
    pdbPath := given rfl fun _ found => i.admits_of_readPdbPath found }

end PeFacts
