import PeFacts.Proofs.Mapping.Header
import PeFacts.Proofs.Mapping.Layout
import PeFacts.Proofs.Truncation

/-!
# Images in files and in memory

An image is examined in a file or in the memory that it was loaded to. The headers are the same in
both views, and so are the imports, if the sections hold all of them: `loading_keeps_imports`.
-/

namespace PeFacts

open Guarded

/-- An image that can be loaded has the same headers in memory. -/
theorem Image.Loadable.read_memory {i : Image} {h : Header} (loadable : i.Loadable h)
    {problems : List Problem} (found : Header.read i.data = .ok (h, problems)) :
    ∃ problems', Header.read (i.memory h) = .ok (h, problems') := by
  obtain ⟨eLfanew, layout, accepted, rfl⟩ := Header.Accepted.of_read found
  have alike := loadable.headers_alike
  have fixed : eLfanew + 24 + layout.directoriesOffset ≤ _ := loadable.fixed
  have accepted' := accepted.of_alike alike loadable.dos fixed
  have same := Header.decode_of_alike alike fixed loadable.declared
  rw [accepted'.read, same]
  exact ⟨_, rfl⟩

/-- A query that is answered from the headers or the imports. -/
def Query.ofImports : Query → Bool
  | .fact .header | .fact .importTable | .fact .numberOfImports
  | .fact .numberOfImportedFunctions | .imports _ _ | .importFunctions | .imphash => true
  | _ => false

/-- The import directory of an image, if it has one, stands in its sections with all that it leads
to. -/
def Image.ImportsBacked (i : Image) (h : Header) : Prop :=
  let rva := (h.directory importDirectory).address
  rva ≠ 0 → ImportTable.ImportsBacked (i.memory h) h.layout i.sections.sections rva

/-- Two images have the same headers and imports, whatever is asked before. -/
structure Image.SameImports (i i' : Image) : Prop where
  header : i'.header? = i.header?
  imports : i'.readImports = i.readImports
  answers : ∀ q : Query, q.ofImports → ∀ past past',
    (i'.ask q (i'.after past')).1 = (i.ask q (i.after past)).1

theorem Image.SameImports.of_reading {i i' : Image} (header : i'.header? = i.header?)
    (imports : i'.readImports = i.readImports) : i.SameImports i' := by
  refine ⟨header, imports, fun q asked past past' => ?_⟩
  have view (f : ImportTable → Value) (i : Image) (past : List Query) :
      ((do return f (← i.content .imports) : Access Value).run.run (i.after past)).1 =
        .ok (f i.readImports.1) :=
    run_view i .imports f past
  have both (f : ImportTable → Value) :
      ((do return f (← i'.content .imports) : Access Value).run.run (i'.after past')).1 =
        ((do return f (← i.content .imports) : Access Value).run.run (i.after past)).1 := by
    rw [view f i' past', view f i past, imports]
  have hash (i : Image) (past : List Query) :
      (i.ask .imphash (i.after past)).1 = .ok (.text (Imphash.digest i.readImports.1.dlls)) :=
    ((gives_view i .imports fun t => Imphash.digest t.dlls).map Value.text).run_after past
  cases q with
  | fact f =>
    cases f with
    | header =>
      have answer (i : Image) (past : List Query) :
          (i.ask (.fact .header) (i.after past)).1 = .ok (.option Header.toValue i.header?) := rfl
      rw [answer i' past', answer i past, header]
    | importTable | numberOfImports | numberOfImportedFunctions => exact both _
    | _ => cases asked
  | imports dll key => exact both _
  | importFunctions => exact both _
  | imphash => rw [hash i' past', hash i past, imports]
  | _ => cases asked

/-- The headers of an image are those that its buffer begins with. -/
theorem Image.headers_of_isPe {data : Bytes} {mode : ScanMode} {limits : Limits}
    {reader : SignatureReader} {h : Header}
    (isPe : (Image.read data mode limits reader).header? = some h) :
    ∃ problems, Header.read data = .ok (h, problems) := by
  cases headers : Header.read data with
  | error problem =>
    rw [(Image.read_of_error mode limits reader headers).1] at isPe
    cases isPe
  | ok accepted =>
    rw [(Image.read_of_ok mode limits reader headers).1] at isPe
    cases isPe
    exact ⟨_, rfl⟩

/-- A file image that can be loaded, and whose sections hold its imports, has the same headers and
imports in memory. -/
theorem loading_keeps_imports (file : Bytes) (limits : Limits) (reader : SignatureReader)
    (forward : 0 ≤ limits.maxNameLength) (i : Image)
    (loaded : Image.load file .file limits reader = .ok i) (h : Header) (loadable : i.Loadable h)
    (backed : i.ImportsBacked h) :
    ∃ i', Image.load (i.memory h) .processMemory limits reader = .ok i' ∧ i.SameImports i' := by
  rw [Image.load_eq] at loaded
  cases loaded
  obtain ⟨problems, headers⟩ := Image.headers_of_isPe loadable.isPe
  obtain ⟨problems', headers'⟩ := loadable.read_memory (by rw [Image.read_data]; exact headers)
  refine ⟨_, Image.load_eq .., ?_⟩
  generalize seen : Image.read ((Image.read file .file limits reader).memory h) .processMemory
    limits reader = i'
  have isPe' : i'.header? = some h := by
    rw [← seen, (Image.read_of_ok .processMemory limits reader headers').1]
  have mapped : i'.sections.mapped = true := by
    rw [← seen, Image.read_sections_mapped]
    rfl
  have length : i'.sections.length = h.sizeOfImage := by
    rw [← seen, Image.read_sections_length, loadable.size_memory]
  have mirrors := loadable.mirrors (Header.sizeOfImage_le headers) (Image.read_sections_mapped ..)
    (by rw [Image.read_sections_length, Image.read_data]) forward mapped length
  apply Image.SameImports.of_reading
  · rw [isPe', loadable.isPe]
  · have data : i'.data = (Image.read file .file limits reader).memory h := by
      rw [← seen, Image.read_data]
    have limits' : i'.limits = limits := by rw [← seen, Image.read_limits]
    unfold Image.readImports
    rw [isPe', loadable.isPe, data, limits', Image.read_limits]
    dsimp only
    split
    · rfl
    next present => exact (mirrors.read_eq (backed present)).symm

/-- A file that imports the function `f` from the DLL `k`. -/
def smallImageFile : Bytes := List.toArray <|
  [0x4D, 0x5A] ++ List.replicate 58 0 ++ [0x40, 0, 0, 0, 0x50, 0x45, 0, 0, 0x4C, 1, 1, 0] ++
  List.replicate 12 0 ++ [112, 0, 0, 0, 0x0B, 1] ++ List.replicate 54 0 ++
  [0x40, 1, 0, 0, 0xF0, 0, 0, 0] ++ List.replicate 28 0 ++ [2, 0, 0, 0] ++
  List.replicate 8 0 ++ [0, 1, 0, 0, 40, 0, 0, 0] ++
  [0x2E, 0x69, 0x64, 0x61, 0x74, 0x61, 0, 0, 54, 0, 0, 0, 0, 1, 0, 0, 54, 0, 0, 0, 0xF0, 0, 0, 0] ++
  List.replicate 28 0 ++ [0x34, 1, 0, 0, 0x28, 1, 0, 0] ++ List.replicate 20 0 ++
  [0x30, 1, 0, 0, 0, 0, 0, 0, 0, 0, 0x66, 0, 0x6B, 0]

/-- The one section stands at position 0xF0 of the file and at address 0x100. -/
def smallImageSection : Section := ⟨0, ".idata", 54, 0x100, 54, 0xF0, 0, true⟩

def smallImageHeader : Header where
  __ := (default : Header)
  eLfanew := 0x40
  machine := 0x14C
  numberOfSections := 1
  sizeOfOptionalHeader := 112
  optionalHeaderOffset := 88
  magic := 0x10B
  sizeOfImage := 0x140
  sizeOfHeaders := 0xF0
  numberOfRvaAndSizes := 2
  directories := [⟨0, 0⟩, ⟨0x100, 40⟩]

/-- The bytes of `smallImageFile` as they are loaded. -/
def smallImage : Image := Image.read smallImageFile

theorem small_image_keeps_imports :
    smallImage.Loadable smallImageHeader ∧ smallImage.ImportsBacked smallImageHeader ∧
      ∃ i', Image.load (smallImage.memory smallImageHeader) .processMemory = .ok i' ∧
        smallImage.SameImports i' ∧
        i'.readImports.1 = ⟨[⟨"k", [⟨some "f", none, some 0⟩]⟩]⟩ := by
  obtain ⟨isPe, sections⟩ : smallImage.header? = some smallImageHeader ∧
      smallImage.sections.sections = [smallImageSection] := by decide +kernel
  have data : smallImage.data.size = 294 := by
    rw [smallImage, Image.read_data]
    decide +kernel
  have loadable : smallImage.Loadable smallImageHeader := {
    isPe := isPe
    short := by rw [data]; decide
    dos := by decide
    fixed := by decide
    declared := by decide
    headers := by rw [data]; decide
    sections := by
      rw [sections]
      exact ⟨by rw [data]; decide, by decide, by decide, List.pairwise_singleton _ _⟩ }
  have held (rva size : Nat) (room : 0x100 ≤ rva ∧ rva + size ≤ 0x100 + 54) :
      Backed smallImage.sections.sections rva size := by
    rw [sections]
    exact ⟨smallImageSection, List.mem_cons_self, room⟩
  have alike : smallImageFile.Alike (smallImage.memory smallImageHeader) 0xF0 0x100 54 := by
    have there := loadable.section_alike (s := smallImageSection) (by rw [sections]; exact .head _)
    rwa [smallImage, Image.read_data] at there
  have number {k width n : Nat} (room : k + width ≤ 54)
      (stands : smallImageFile.number (0xF0 + k) width = n) :
      (smallImage.memory smallImageHeader).number (0x100 + k) width = n :=
    ((alike.within room).number_eq (Nat.le_refl _)).symm.trans stands
  have byte {k : Nat} (room : k < 54) (stands : smallImageFile.byte (0xF0 + k) = 0) :
      (smallImage.memory smallImageHeader).byte (0x100 + k) = 0 :=
    (alike.bytes k room).symm.trans stands
  have last : ((smallImage.memory smallImageHeader).clamped (0x100 + 20) 20).all (· == 0) := by
    rw [Bytes.clamped, ← (alike.within (i := 20) (n := 20) (by decide)).extract_eq]
    decide +kernel
  have name : ImportTable.TextBacked (smallImage.memory smallImageHeader)
      smallImage.sections.sections 0x134 0 :=
    ⟨1, held _ _ (by decide), byte (k := 53) (by decide) (by decide +kernel)⟩
  have function : ImportTable.TextBacked (smallImage.memory smallImageHeader)
      smallImage.sections.sections 0x130 2 :=
    ⟨1, held _ _ (by decide), byte (k := 51) (by decide) (by decide +kernel)⟩
  have thunks : ImportTable.ThunksBacked (smallImage.memory smallImageHeader) .pe32
      smallImage.sections.sections 0x128 := by
    refine ⟨1, held _ _ (by decide), number (k := 44) (by decide) (by decide +kernel), ?_⟩
    intro k hk
    obtain rfl : k = 0 := by omega
    have thunk : (smallImage.memory smallImageHeader).number (0x100 + 40) 4 = 0x130 :=
      number (by decide) (by decide +kernel)
    rw [HeaderLayout.thunkSize, thunk]
    exact fun _ _ => function
  have descriptor : ImportTable.DescriptorBacked (smallImage.memory smallImageHeader) .pe32
      smallImage.sections.sections 0x100 := by
    have nameRva : (smallImage.memory smallImageHeader).number (0x100 + 12) 4 = 0x134 :=
      number (by decide) (by decide +kernel)
    have unbound : (smallImage.memory smallImageHeader).number (0x100 + 0) 4 = 0 :=
      number (by decide) (by decide +kernel)
    have bound : (smallImage.memory smallImageHeader).number (0x100 + 16) 4 = 0x128 :=
      number (by decide) (by decide +kernel)
    constructor
    · rw [nameRva]
      exact name
    · rw [if_pos unbound, bound]
      exact thunks
  have backed : smallImage.ImportsBacked smallImageHeader := by
    refine fun _ => ⟨1, held _ _ (by decide), last, fun k hk => ?_⟩
    obtain rfl : k = 0 := by omega
    exact descriptor
  obtain ⟨i', loaded, same⟩ := loading_keeps_imports smallImageFile {} .standard (by decide)
    smallImage (Image.load_eq ..) smallImageHeader loadable backed
  refine ⟨loadable, backed, i', loaded, same, ?_⟩
  rw [same.imports]
  decide +kernel

end PeFacts
