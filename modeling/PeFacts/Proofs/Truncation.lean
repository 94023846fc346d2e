import PeFacts.Proofs.Session
import PeFacts.Proofs.Truncation.Export
import PeFacts.Proofs.Truncation.Import
import PeFacts.Scan

/-!
# Truncated images

A scan may read only the beginning of a file. The facts that it finds there are facts of the whole
file (`Image.BeginningOf`): what is cut off may be missing, but nothing is found that is not there.
-/

namespace PeFacts

open Guarded

namespace Image

/-- The imported DLLs, each with the position of its descriptor. -/
def locatedDlls (i : Image) : List (Nat × ImportedDll) :=
  match i.header? with
  | none => []
  | some h =>
    let rva := (h.directory importDirectory).address
    if rva = 0 then [] else ImportTable.located ⟨i.data, h.layout, i.sections, i.limits⟩ rva

theorem readImports_dlls (i : Image) : i.readImports.1.dlls = i.locatedDlls.map (·.2) := by
  unfold readImports locatedDlls
  cases i.header? with
  | none => rfl
  | some h =>
    dsimp only
    split
    · rfl
    · exact ImportTable.read_dlls _ _

theorem locatedDlls_pairwise (i : Image) : i.locatedDlls.Pairwise fun e e' => e.1 < e'.1 := by
  unfold locatedDlls
  cases i.header? with
  | none => exact .nil
  | some h =>
    dsimp only
    split
    · exact .nil
    · exact ImportTable.located_pairwise _ _

/-- The image of the beginning of a buffer has no fact that the image of the whole does not have. -/
structure BeginningOf (i i' : Image) : Prop where
  /-- An image stays one, with the same scalar fields and the same first data directories. -/
  header : ∀ h, i.header? = some h → ∃ h', i'.header? = some h' ∧ h.Extends h'
  /-- The sections are the first ones, with the same fields; raw data may become complete. -/
  sections : SectionsExtend i.sections.sections i'.sections.sections
  /-- An address that has a position keeps it. -/
  offset : ∀ rva, i.offset? rva = none ∨ i.offset? rva = i'.offset? rva
  /-- The DLLs that are imported stand under the positions of their descriptors, in order. -/
  located : ∀ j ∈ [i, i'], j.readImports.1.dlls = j.locatedDlls.map (·.2) ∧
    j.locatedDlls.Pairwise fun e e' => e.1 < e'.1
  /-- Each DLL that is imported is one that the whole image imports, by the same descriptor and with
  at least these functions. -/
  dlls : List.SublistForall₂ ImportTable.LocatedExtends i.locatedDlls i'.locatedDlls
  /-- The exported ordinals are the first ones. -/
  ordinals : i.readExports.1.ordinals <+: i'.readExports.1.ordinals
  /-- The exported names are some of the names. -/
  names : i.readExports.1.names.Sublist i'.readExports.1.names
  /-- Whatever is found to be imported is imported, whatever else is asked before. -/
  imports : ∀ dll key past past', (i.ask (.imports dll key) (i.after past)).1 = .ok (.bool true) →
    (i'.ask (.imports dll key) (i'.after past')).1 = .ok (.bool true)
  /-- Whatever is found to be exported is exported, whatever else is asked before. -/
  exports : ∀ key past past', (i.ask (.exports key) (i.after past)).1 = .ok (.bool true) →
    (i'.ask (.exports key) (i'.after past')).1 = .ok (.bool true)

end Image

theorem ask_imports (i : Image) (past : List Query) (dll : String) (key : FunctionKey) :
    (i.ask (.imports dll key) (i.after past)).1 =
      .ok (.bool (i.readImports.1.imports dll key)) :=
  run_view i .imports (fun t => Value.bool (t.imports dll key)) past

theorem ask_exports (i : Image) (past : List Query) (key : FunctionKey) :
    (i.ask (.exports key) (i.after past)).1 = .ok (.bool (i.readExports.1.exports key)) :=
  run_view i .exports (fun t => Value.bool (t.exports key)) past

/-- A directory that the truncated image has is that of the whole image. -/
theorem Header.Extends.directory {h h' : Header} (headers : h.Extends h') (index : Nat) :
    h.directory index = ⟨0, 0⟩ ∨ h.directory index = h'.directory index := by
  obtain ⟨others, whole⟩ := headers.directories
  unfold Header.directory
  rw [← whole, List.getD_eq_getElem?_getD, List.getD_eq_getElem?_getD]
  by_cases there : index < h.directories.length
  · exact .inr (by rw [List.getElem?_append_left there])
  · exact .inl (by rw [List.getElem?_eq_none (by omega)]; rfl)

namespace Image

/-- What is read at once of the beginning of a buffer and of the whole of it. -/
structure Truncates (i i' : Image) : Prop where
  data : ∃ rest, i'.data = i.data ++ rest
  limits : i'.limits = i.limits
  header : ∀ h, i.header? = some h → ∃ h', i'.header? = some h' ∧ h.Extends h'
  sections : i.sections.Extends i'.sections
  forward : 0 ≤ i.limits.maxNameLength

section Read

variable {data : Bytes} (mode : ScanMode) (limits : Limits) (reader : SignatureReader)

theorem read_of_error {problem : Problem} (found : Header.read data = .error problem) :
    (read data mode limits reader).header? = none ∧
      (read data mode limits reader).sections.sections = [] := by
  unfold read
  rw [found]
  exact ⟨rfl, rfl⟩

theorem read_of_ok {h : Header} {problems : List Problem}
    (found : Header.read data = .ok (h, problems)) :
    (read data mode limits reader).header? = some h ∧
      (read data mode limits reader).sections.sections =
        (Section.readAll data h limits.maxSections).1 := by
  unfold read
  rw [found]
  exact ⟨rfl, rfl⟩

end Read

theorem read_truncates (data rest : Bytes) (mode : ScanMode) {limits : Limits}
    (reader : SignatureReader) (forward : 0 ≤ limits.maxNameLength) :
    Truncates (read data mode limits reader) (read (data ++ rest) mode limits reader) := by
  have longer : (read data mode limits reader).sections.length ≤
      (read (data ++ rest) mode limits reader).sections.length := by
    rw [read_sections_length, read_sections_length, Array.size_append]
    omega
  have both : (read (data ++ rest) mode limits reader).sections.mapped =
      (read data mode limits reader).sections.mapped := by
    rw [read_sections_mapped, read_sections_mapped]
  refine ⟨⟨rest, by rw [read_data, read_data]⟩, by rw [read_limits, read_limits], ?_, ?_,
    by rw [read_limits]; exact forward⟩
  · intro h found
    cases headers : Header.read data with
    | error problem =>
      rw [(read_of_error mode limits reader headers).1] at found
      cases found
    | ok accepted =>
      rw [(read_of_ok mode limits reader headers).1] at found
      cases found
      obtain ⟨h', problems', headers', same⟩ := Header.read_extends rest headers
      exact ⟨h', (read_of_ok mode limits reader headers').1, same⟩
  · refine ⟨?_, longer, both⟩
    cases headers : Header.read data with
    | error problem =>
      rw [(read_of_error mode limits reader headers).2]
      exact ⟨[], List.nil_prefix, .nil⟩
    | ok accepted =>
      obtain ⟨h', problems', headers', same⟩ := Header.read_extends rest headers
      rw [(read_of_ok mode limits reader headers).2, (read_of_ok mode limits reader headers').2]
      exact Section.readAll_extends rest same _

namespace Truncates

variable {i i' : Image} (h : i.Truncates i')

include h in
theorem persists_offset (rva : Int) : Persists (i.offset? rva) (i'.offset? rva) := by
  unfold offset?
  cases found : i.header? with
  | none => exact .none _
  | some header =>
    obtain ⟨header', found', -⟩ := h.header header found
    rw [found']
    exact (Persists.refl _).bind fun position => h.sections.persists_offset position

include h in
theorem dlls_extend :
    List.SublistForall₂ ImportTable.LocatedExtends i.locatedDlls i'.locatedDlls := by
  unfold locatedDlls
  cases found : i.header? with
  | none => exact .nil
  | some header =>
    obtain ⟨header', found', headers⟩ := h.header header found
    rw [found']
    dsimp only
    rcases headers.directory importDirectory with absent | same
    · rw [absent, if_pos rfl]
      exact .nil
    · rw [← same]
      split
      · exact .nil
      · refine ImportTable.located_extends ⟨h.data, ?_, h.sections, h.limits, h.forward⟩ _
        rw [headers.fields]

include h in
theorem exports_extend :
    i.readExports.1.ordinals <+: i'.readExports.1.ordinals ∧
      i.readExports.1.names.Sublist i'.readExports.1.names := by
  obtain ⟨rest, data⟩ := h.data
  have absent_exports (none_there : (i.directory exportDirectory).address = 0) :
      i.readExports = ({}, []) := by
    unfold readExports
    exact if_pos none_there
  cases found : i.header? with
  | none =>
    rw [absent_exports (by rw [Image.directory, found]; rfl)]
    exact ⟨List.nil_prefix, List.nil_sublist _⟩
  | some header =>
    obtain ⟨header', found', headers⟩ := h.header header found
    rcases headers.directory exportDirectory with absent | same
    · rw [absent_exports (by rw [Image.directory, found, Option.elim_some, absent])]
      exact ⟨List.nil_prefix, List.nil_sublist _⟩
    · unfold readExports Image.directory
      simp only [found, found', Option.elim_some, ← same, data, h.limits]
      split
      · exact ⟨List.nil_prefix, List.nil_sublist _⟩
      · exact ExportTable.read_extends rest h.sections h.forward _

include h in
theorem beginningOf : i.BeginningOf i' where
  header := h.header
  sections := h.sections.sections
  offset := h.persists_offset
  located j _ := ⟨j.readImports_dlls, j.locatedDlls_pairwise⟩
  dlls := h.dlls_extend
  ordinals := h.exports_extend.1
  names := h.exports_extend.2
  imports dll key past past' found := by
    rw [ask_imports] at found ⊢
    have there : i.readImports.1.imports dll key = true := by simpa using found
    have dlls (j : Image) : j.readImports.1 = ⟨j.locatedDlls.map (·.2)⟩ := by
      rw [← j.readImports_dlls]
    rw [dlls i] at there
    rw [dlls i', ImportTable.imports_mono h.dlls_extend dll key there]
  exports key past past' found := by
    rw [ask_exports] at found ⊢
    have there : i.readExports.1.exports key = true := by simpa using found
    rw [ExportTable.exports_mono h.exports_extend.1 h.exports_extend.2 key there]

end Truncates

end Image

/-- What a scan reads of a file is its beginning. -/
theorem Scan.firstBytes_prefix {file data : Bytes} {limit : Int} {truncated : Bool}
    (read : Scan.firstBytes file limit = .ok (data, truncated)) : data.toList <+: file.toList := by
  have cut (bytes : Bytes) (n : Nat) : (bytes.extract 0 n).toList <+: bytes.toList := by
    rw [Array.toList_extract, List.extract_eq_take_drop]
    exact List.take_prefix _ _
  unfold Scan.firstBytes at read
  split at read
  · cases read
  split at read
  · cases read
  split at read
  · cases read
  dsimp only at read
  have beginning : (if limit + 1 = -1 then file else file.extract 0 (limit + 1).toNat).toList <+:
      file.toList := by
    split
    · exact List.prefix_refl _
    · exact cut _ _
  generalize (if limit + 1 = -1 then file else file.extract 0 (limit + 1).toNat) = taken
    at read beginning
  split at read
  · cases read
    exact (cut _ _).trans beginning
  · cases read
    exact beginning

/-- A scan that is limited to the beginning of a file reads just that. -/
theorem Scan.firstBytes_append {beginning rest : Bytes} (more : 0 < rest.size)
    (room : (beginning.size : Int) + 1 < roomBound) :
    Scan.firstBytes (beginning ++ rest) beginning.size = .ok (beginning, true) := by
  have bounds : roomBound < sizeBound - sizeOverhead := by decide
  have read : ((beginning ++ rest).extract 0 (beginning.size + 1)).size = beginning.size + 1 := by
    rw [Array.size_extract, Array.size_append]
    omega
  have cut : Bytes.cut (beginning.size + 1) beginning.size = beginning.size := by
    rw [Bytes.cut, if_neg (by omega), Int.toNat_natCast]
    omega
  have first : ((beginning ++ rest).extract 0 (beginning.size + 1)).extract 0 beginning.size =
      beginning := by
    rw [Array.extract_extract, Nat.zero_add, Nat.zero_add, Nat.min_eq_left (Nat.le_succ _),
      Array.extract_append_left, Array.extract_size]
  have size : ((beginning.size : Int) + 1).toNat = beginning.size + 1 := rfl
  unfold Scan.firstBytes
  rw [if_neg (by unfold sizeBound at *; omega), if_neg (by omega), if_neg (by omega)]
  dsimp only
  rw [if_neg (show ¬ (beginning.size : Int) + 1 = -1 by omega), size, read, if_pos (by omega), cut,
    first]

/-- Truncation never invents facts: what is found in the beginning of a buffer is found in the whole
of it. What a scan reads under a limit is such a beginning. -/
theorem truncation_never_invents_facts (whole : Bytes) (mode : ScanMode) (limits : Limits)
    (reader : SignatureReader) (forward : 0 ≤ limits.maxNameLength) :
    (∀ data : Bytes, data.toList <+: whole.toList →
      ∃ i i', Image.load data mode limits reader = .ok i ∧
        Image.load whole mode limits reader = .ok i' ∧ i.BeginningOf i') ∧
    ∀ limit data truncated, Scan.firstBytes whole limit = .ok (data, truncated) →
      data.toList <+: whole.toList := by
  refine ⟨fun data ⟨others, split⟩ => ?_, fun _ _ _ => Scan.firstBytes_prefix⟩
  have appended : whole = data ++ others.toArray := by
    apply Array.toList_inj.1
    rw [Array.toList_append, ← split]
  subst appended
  exact ⟨_, _, Image.load_eq .., Image.load_eq ..,
    (Image.read_truncates data others.toArray mode reader forward).beginningOf⟩

/-- The beginning of a library with one section, which begins at address 0x1000 and position 280. The
resources and the debug directory stand where other tables do. -/
def libraryBeginning : Bytes := List.toArray <| List.flatten [
  [0x4D, 0x5A], List.replicate 58 0, [0x40, 0, 0, 0, 0x50, 0x45, 0, 0, 0x4C, 1, 1, 0],
  List.replicate 12 0, [0x98, 0, 0, 0x20, 0x0B, 1], List.replicate 90 0, [7, 0, 0, 0],
  [0, 0x10, 0, 0, 40, 0, 0, 0, 0x30, 0x10, 0, 0, 60, 0, 0, 0, 0x84, 0x10, 0, 0, 16, 0, 0, 0],
  List.replicate 24 0, [0x70, 0x10, 0, 0, 56, 0, 0, 0],
  [0x2E, 0x64, 0x61, 0x74, 0x61, 0, 0, 0, 152, 0, 0, 0, 0, 0x10, 0, 0, 152, 0, 0, 0, 0x18, 1, 0, 0],
  List.replicate 12 0, [0x40, 0, 0, 0x40],
  -- the export directory with two addresses and two names, and where the names are
  List.replicate 16 0, [1, 0, 0, 0, 2, 0, 0, 0, 2, 0, 0, 0, 0x88, 0x10, 0, 0, 0x28, 0x10, 0, 0],
  [0, 0, 0, 0, 0x94, 0x10, 0, 0, 0x80, 0x10, 0, 0],
  -- the import descriptors of `m` and `k`, and then their thunks
  [0x6C, 0x10, 0, 0], List.replicate 8 0, [0x96, 0x10, 0, 0, 0, 0, 0, 0, 0x74, 0x10, 0, 0],
  List.replicate 8 0, [0x82, 0x10, 0, 0], List.replicate 24 0,
  [0x84, 0x10, 0, 0, 0, 0, 0, 0, 0x90, 0x10, 0, 0, 0x84, 0x10, 0, 0, 0, 0, 0, 0],
  -- the names `a`, `k` and `f`, and the first exported address
  [0x61, 0, 0x6B, 0, 0, 0, 0x66, 0, 0x80, 0x10, 0, 0]]

/-- The rest of the library: the second exported address, the function name `g` and the names `b` and
`m`. The library exports `b` and `a`, and imports `f` from `m`, and `g` and `f` from `k`. -/
def libraryRest : Bytes := #[0x80, 0x10, 0, 0, 0, 0, 0x67, 0, 0x62, 0, 0x6D, 0]

/-- The whole library. -/
def libraryFile : Bytes := libraryBeginning ++ libraryRest

/-- The library as a scan that is limited to 420 bytes reads it: of each table some is lost, and what
is left is as in the whole library. -/
theorem cut_library_invents_nothing :
    0 ≤ ({} : Limits).maxNameLength ∧
      Scan.firstBytes libraryFile 420 = .ok (libraryBeginning, true) ∧
      ∃ i i', Image.load libraryBeginning = .ok i ∧ Image.load libraryFile = .ok i' ∧
        i.BeginningOf i' ∧
        (i.readImports.1 = ⟨[⟨"k", [⟨some "f", none, some 0⟩]⟩]⟩ ∧
          i.readExports.1.names = ["a"] ∧ i.readExports.1.ordinals = [1] ∧ i.isPe ∧
          i.sections.sections = [⟨0, ".data", 152, 0x1000, 152, 280, 0x40000040, false⟩] ∧
          i.offset? 0x1080 = some 408 ∧ i.offset? 0x1094 = none) ∧
        (i'.readImports.1 = ⟨[⟨"m", [⟨some "f", none, some 0⟩]⟩,
            ⟨"k", [⟨some "g", none, some 0⟩, ⟨some "f", none, some 0⟩]⟩]⟩ ∧
          i'.readExports.1.names = ["b", "a"] ∧ i'.readExports.1.ordinals = [1, 2] ∧
          i'.sections.sections = [⟨0, ".data", 152, 0x1000, 152, 280, 0x40000040, true⟩] ∧
          i'.offset? 0x1094 = some 428) ∧
        ∀ past, (i'.ask (.imports "K" (.name "F")) (i'.after past)).1 = .ok (.bool true) ∧
          (i'.ask (.exports (.name "A")) (i'.after past)).1 = .ok (.bool true) := by
  have forward : 0 ≤ ({} : Limits).maxNameLength := by decide
  have size : libraryBeginning.size = 420 := by decide +kernel
  have scanned : Scan.firstBytes libraryFile 420 = .ok (libraryBeginning, true) := by
    have room : (libraryBeginning.size : Int) + 1 < Scan.roomBound := by rw [size]; decide
    have more : 0 < libraryRest.size := by decide
    rw [← Scan.firstBytes_append more room, size]
    rfl
  obtain ⟨beginnings, scans⟩ :=
    truncation_never_invents_facts libraryFile .file {} .standard forward
  obtain ⟨i, i', loaded, loaded', beginning⟩ :=
    beginnings libraryBeginning (scans 420 libraryBeginning true scanned)
  have read := Image.eq_read_of_load loaded
  have read' := Image.eq_read_of_load loaded'
  have imports : i.readImports.1 = ⟨[⟨"k", [⟨some "f", none, some 0⟩]⟩]⟩ := by
    rw [read]
    decide +kernel
  have names : i.readExports.1.names = ["a"] := by
    rw [read]
    decide +kernel
  refine ⟨forward, scanned, i, i', loaded, loaded', beginning, ⟨imports, names, ?left⟩, ?whole,
    fun past => ⟨beginning.imports _ _ [] past ?imported, beginning.exports _ [] past ?exported⟩⟩
  case left =>
    rw [read]
    decide +kernel
  case whole =>
    rw [read']
    decide +kernel
  case imported =>
    have found : i.readImports.1.imports "K" (.name "F") = true := by
      rw [imports]
      decide +kernel
    rw [ask_imports, found]
  case exported =>
    have found : i.readExports.1.exports (.name "A") = true := by
      rw [ExportTable.exports_name_iff, names]
      decide +kernel
    rw [ask_exports, found]

end PeFacts
