import Mathlib
import PeFacts.Proofs.Reading
import PeFacts.Proofs.Session
import PeFacts.Proofs.Signature.Table

/-!
# Problems of an accepted image

Whether a buffer is an image is decided by its headers alone. Whatever is met afterwards, in the
sections and in the directories, is a minor problem: one that leaves the buffer an image. Each loop
of a reader keeps what was noted before minor (`Reading.Minor`), by induction on what is left to read,
and signatures are noted as problems of the table or of a blob. `minor_after` says so of everything
that is ever noted of an image.
-/

namespace PeFacts

/-- All of the problems leave the buffer an image. -/
def AllMinor (ps : List Problem) : Prop := ∀ p ∈ ps, p.Minor

namespace AllMinor

theorem nil : AllMinor [] := nofun

theorem cons {p : Problem} {ps : List Problem} (minor : p.Minor) (h : AllMinor ps) :
    AllMinor (p :: ps) := by
  intro q hq
  rcases List.mem_cons.1 hq with rfl | later
  · exact minor
  · exact h q later

theorem single {p : Problem} (minor : p.Minor) : AllMinor [p] := cons minor nil

theorem append {ps qs : List Problem} (hp : AllMinor ps) (hq : AllMinor qs) :
    AllMinor (ps ++ qs) := by
  intro q hq'
  rcases List.mem_append.1 hq' with first | second
  · exact hp q first
  · exact hq q second

/-- A problem that is noted only under a condition. -/
theorem ite {c : Prop} [Decidable c] {p : Problem} (minor : p.Minor) :
    AllMinor (if c then [p] else []) := by
  split
  · exact single minor
  · exact nil

end AllMinor

/-- All problems noted so far leave the buffer an image. -/
def Reading.Minor {α : Type} (r : Reading α) : Prop := AllMinor r.problems.toList

namespace Reading

variable {α : Type} {r : Reading α}

theorem minor_empty : Minor ({} : Reading α) := AllMinor.nil

theorem Minor.report (h : r.Minor) {p : Problem} (minor : p.Minor) : (r.report p).Minor := by
  unfold Reading.Minor Reading.report
  rw [Array.toList_push]
  exact AllMinor.append h (.single minor)

theorem Minor.keep (h : r.Minor) (a : α) : (r.keep a).Minor := h

end Reading

/-! ## Headers and sections -/

theorem Header.minor_problems (data : Bytes) (h : Header) : AllMinor (h.problems data) := by
  apply AllMinor.append
  · unfold layoutProblems
    split
    · exact .single (.of_kind rfl)
    · split
      · exact .ite (.of_kind rfl)
      · exact .ite (.of_kind rfl)
  · exact .ite (.of_kind rfl)

theorem Section.minor_readFrom (data : Bytes) (index off count : Nat) :
    AllMinor (readFrom data index off count).2 := by
  induction count generalizing index off with
  | zero => exact .nil
  | succ count ih =>
    rw [readFrom]
    split
    · exact ih (index + 1) (off + headerSize)
    · exact .single (.of_kind rfl)

theorem Section.minor_readAll (data : Bytes) (h : Header) (limit : Int) :
    AllMinor (readAll data h limit).2 := by
  unfold readAll
  split
  · exact .cons (.of_kind rfl) (minor_readFrom data 0 _ _)
  · exact minor_readFrom data 0 _ _

/-! ## Imports -/

theorem ImportTable.minor_read (src : Source) (rva : Nat) : AllMinor (read src rva).2 := by
  unfold read
  split
  · exact .single (.of_kind rfl)
  next off _ =>
    split
    · exact .nil
    · exact (src.grows_descriptorsFrom off _ {}).problems

/-! ## Exports -/

namespace ExportTable

variable (data : Bytes) (sections : SectionTable) (limits : Limits)

theorem minor_readOrdinals (base announced rva : Nat) (limit : Int) :
    AllMinor (readOrdinals data sections base announced rva limit).2 := by
  unfold readOrdinals
  split
  · exact .nil
  · dsimp only
    split
    · exact .append (.ite (.of_kind rfl)) (.single (.of_kind rfl))
    · exact .append (.ite (.of_kind rfl)) (.ite (.of_kind rfl))

theorem minor_readNames (announced namesRva ordinalsRva : Nat) :
    AllMinor (readNames data sections limits announced namesRva ordinalsRva).2 := by
  unfold readNames
  split
  · exact .nil
  · dsimp only
    split
    · exact .append (.ite (.of_kind rfl)) (.single (.of_kind rfl))
    · refine .append (.append (.ite (.of_kind rfl)) ?_) (.ite (.of_kind rfl))
      intro p hp
      obtain ⟨slot, -, noted⟩ := List.mem_filterMap.1 hp
      split at noted
      · cases noted
        exact .of_kind rfl
      · cases noted

theorem minor_read (rva : Nat) : AllMinor (read data sections limits rva).2 := by
  unfold read
  split
  · exact .single (.of_kind rfl)
  · split
    · exact .single (.of_kind rfl)
    · have ordinals := minor_readOrdinals data sections
      dsimp only
      exact .append (.append (.ite (.of_kind rfl)) (ordinals _ _ _ _)) (minor_readNames _ _ _ _ _ _)

end ExportTable

/-! ## Resources and version information -/

namespace ResourceIndex

variable (src : Source)

theorem minor_entry (p : Pending) (raw target : Nat) {s : Scan} (h : s.walk.Minor) :
    (src.entry p raw target s).walk.Minor := by
  unfold Source.entry
  dsimp only
  split
  · exact h
  · split
    · exact h.report (.of_kind rfl)
    · split
      · exact h.report (.of_kind rfl)
      · exact h.keep _

theorem minor_entriesFrom (p : Pending) (index off left : Nat) {s : Scan} (h : s.walk.Minor) :
    (src.entriesFrom p index off left s).walk.Minor := by
  induction left generalizing index off s with
  | zero => exact h
  | succ left ih =>
    rw [Source.entriesFrom]
    split
    · exact h.report (.of_kind rfl)
    · split
      · exact ih _ _ (minor_entry src p _ _ h)
      · exact h.report (.of_kind rfl)

theorem minor_visit (p : Pending) {w : Walk} (h : w.Minor) : (src.visit p w).walk.Minor := by
  unfold Source.visit
  split
  · exact h.report (.of_kind rfl)
  · split
    · exact h.report (.of_kind rfl)
    · dsimp only
      split
      · exact h.report (.of_kind rfl)
      · exact minor_entriesFrom src p _ _ _ h

theorem minor_visitAll (fuel : Nat) (pending : List Pending) {w : Walk} (h : w.Minor) :
    (src.visitAll fuel pending w).Minor := by
  induction fuel generalizing pending w with
  | zero => exact h
  | succ fuel ih =>
    cases pending with
    | nil => exact h
    | cons p rest =>
      rw [Source.visitAll]
      split
      · exact minor_visit src p h
      · exact ih _ (minor_visit src p h)

theorem minor_read (data : Bytes) (sections : SectionTable) (limits : Limits) (rva : Nat) :
    AllMinor (read data sections limits rva).2 := by
  unfold read
  split
  · exact .single (.of_kind rfl)
  · exact minor_visitAll _ _ _ AllMinor.nil

end ResourceIndex

namespace VersionInfo

variable (data : Bytes) (bounds : Bounds)

theorem minor_keepValue (b : Block) {pairs : Pairs} (h : pairs.Minor) :
    (keepValue data bounds b pairs).Minor := by
  unfold keepValue
  split
  · exact h.keep _
  · exact h

theorem minor_read : AllMinor (read data bounds).2 := by
  unfold read
  split
  · exact .single (.of_kind rfl)
  · split
    · exact .single (.of_kind rfl)
    · split
      · exact blocks_keeps (I := Reading.Minor) (fun b _ h => minor_keepValue data bounds b h)
          (fun _ h => h.report (.of_kind rfl)) _ _ _ _ Reading.minor_empty
      · exact .nil

theorem minor_ofResources (index : ResourceIndex) (limit : Int) :
    AllMinor (ofResources data index limit).2 := by
  unfold ofResources
  split
  · exact .nil
  · split
    · exact .nil
    · split
      · exact .single (.of_kind rfl)
      · exact .append (.append (.ite (.of_kind rfl)) (.ite (.of_kind rfl))) (minor_read _ _)

end VersionInfo

/-! ## Debug directory and rich header -/

theorem Debug.minor_pathFrom (data : Bytes) (mapped : Bool) (maxLength : Int)
    (index off left : Nat) : AllMinor (pathFrom data mapped maxLength index off left).2 := by
  induction left generalizing index off with
  | zero => exact .nil
  | succ left ih =>
    rw [pathFrom]
    split
    · exact .single (.of_kind rfl)
    · dsimp only
      split
      · exact .nil
      · exact ih (index + 1) (off + entrySize)

theorem Debug.minor_pdbPath (data : Bytes) (sections : SectionTable) (directory : DataDirectory)
    (maxLength : Int) : AllMinor (pdbPath data sections directory maxLength).2 := by
  unfold pdbPath
  split
  · exact .single (.of_kind rfl)
  · exact minor_pathFrom _ _ _ _ _ _

theorem Rich.minor_read (data : Bytes) (eLfanew limit : Int) :
    AllMinor (read data eLfanew limit).2 := by
  unfold read
  dsimp only
  split
  · exact .nil
  · exact .ite (.of_kind rfl)

/-! ## Signatures -/

theorem Problem.Minor.of_ofBlob {p : Problem} (h : p.ofBlob) : p.Minor := by
  cases p <;> first | exact .of_kind rfl | cases h

theorem Problem.Minor.of_ofTable {p : Problem} (h : p.ofTable) : p.Minor := by
  cases p <;> first | exact .of_kind rfl | cases h

theorem CertificateTable.minor_read (data : Bytes) (offset size maxCertificates maxDepth : Int)
    (reader : SignatureReader) {records : List SignatureRecord} {ps : List Problem}
    (found : read data offset size maxCertificates maxDepth reader = .ok (records, ps)) :
    AllMinor ps := by
  obtain ⟨ofBlobs, blobs, rfl⟩ := problems_of_read found
  apply AllMinor.append
  · exact fun p there => .of_ofTable (ofTable_of_mem_parts there)
  · exact fun p there => .of_ofBlob (blobs p there)

/-! ## Everything noted of an image -/

namespace Image

theorem minor_readImports (i : Image) : AllMinor i.readImports.2 := by
  unfold readImports
  split
  · exact .nil
  · dsimp only
    split
    · exact .nil
    · exact ImportTable.minor_read _ _

theorem minor_readExports (i : Image) : AllMinor i.readExports.2 := by
  unfold readExports
  dsimp only
  split
  · exact .nil
  · exact ExportTable.minor_read _ _ _ _

theorem minor_readResources (i : Image) : AllMinor i.readResources.2 := by
  unfold readResources
  dsimp only
  split
  · exact .nil
  · exact ResourceIndex.minor_read _ _ _ _

theorem minor_readVersionInfo (i : Image) (index : ResourceIndex) :
    AllMinor (i.readVersionInfo index).2 := by
  unfold readVersionInfo
  split
  · exact VersionInfo.minor_ofResources _ _ _
  · exact .nil

theorem minor_readSignatures (i : Image) {records : List SignatureRecord} {ps : List Problem}
    (found : i.readSignatures = .ok (records, ps)) : AllMinor ps := by
  unfold readSignatures at found
  dsimp only at found
  split at found
  · cases found
    exact .nil
  · exact CertificateTable.minor_read _ _ _ _ _ _ found

theorem minor_readRich (i : Image) : AllMinor i.readRich.2 := by
  unfold readRich
  split
  · exact .nil
  · exact Rich.minor_read _ _ _

theorem minor_readPdbPath (i : Image) : AllMinor i.readPdbPath.2 := by
  unfold readPdbPath
  dsimp only
  split
  · exact .nil
  · exact Debug.minor_pdbPath _ _ _ _

/-- No directory has a problem that keeps the buffer from being an image. -/
theorem minor_block (i : Image) (d : Directory) : AllMinor (i.block d) := by
  cases d with
  | imports => exact i.minor_readImports
  | exports => exact i.minor_readExports
  | resources => exact i.minor_readResources
  | versionInfo => exact i.minor_readVersionInfo _
  | rich => exact i.minor_readRich
  | pdbPath => exact i.minor_readPdbPath
  | signatures =>
    unfold block holding
    cases found : i.readSignatures with
    | error fault => exact .nil
    | ok reading => exact i.minor_readSignatures found

/-- What is noted in the course of any accesses is minor if what was noted at first is. -/
theorem minor_after {i : Image} (start : AllMinor i.problems) (past : List Query) :
    AllMinor (i.after past).problems := by
  rw [(tracks_after i past).problems]
  apply AllMinor.append start
  intro p hp
  obtain ⟨d, -, there⟩ := List.mem_flatMap.1 hp
  exact i.minor_block d p there

end Image

end PeFacts
