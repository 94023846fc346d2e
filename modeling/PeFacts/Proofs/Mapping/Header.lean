import PeFacts.Proofs.Mapping.Buffer
import PeFacts.Proofs.Truncation.Header

/-!
# Headers in two views

Headers that stand wholly in a part in which two buffers are alike are accepted and decoded alike.
The data directories are no exception: the declared size of the optional header ends their table, not
the end of the buffer.
-/

namespace PeFacts

namespace Header

variable {data data' : Bytes} {n eLfanew : Nat} {layout : HeaderLayout}

/-- Headers that stand in the part that is alike are decoded alike. -/
theorem decode_of_alike (alike : data.Alike data' 0 0 n)
    (fixed : eLfanew + 24 + layout.directoriesOffset ≤ n)
    (declared : eLfanew + 24 + data.number (eLfanew + 20) 2 ≤ n) :
    decode data' eLfanew layout = decode data eLfanew layout := by
  have large : 0x60 ≤ layout.directoriesOffset := by cases layout <;> decide
  have count : layout.directoryCountOffset + 4 = layout.directoriesOffset := by cases layout <;> rfl
  have base : layout.imageBaseOffset + layout.imageBaseSize ≤ 0x60 := by cases layout <;> decide
  have number {off width : Nat} (room : off + width ≤ n) :
      data'.number off width = data.number off width := Bytes.number_of_alike alike room
  have inside := alike.inside
  have inside' := alike.inside'
  have size (announced : Nat) :
      directoryCount data' (eLfanew + 24) (data.number (eLfanew + 20) 2) layout announced =
        directoryCount data (eLfanew + 24) (data.number (eLfanew + 20) 2) layout announced := by
    simp only [directoryCount]
    omega
  have table (announced : Nat) :
      directoryTable data' (eLfanew + 24 + layout.directoriesOffset)
          (directoryCount data (eLfanew + 24) (data.number (eLfanew + 20) 2) layout announced) =
        directoryTable data (eLfanew + 24 + layout.directoriesOffset)
          (directoryCount data (eLfanew + 24) (data.number (eLfanew + 20) 2) layout announced) := by
    refine List.map_congr_left fun k hk => ?_
    have few := List.mem_range.1 hk
    simp only [directoryCount] at few
    rw [number (by omega), number (by omega)]
  simp (disch := omega) only [decode, versionAt, coffSize, checksumFieldOffset, Nat.add_assoc,
    Nat.reduceAdd, number]
  simp only [← Nat.add_assoc] at size table ⊢
  simp only [size, table]

theorem Accepted.of_alike (accepted : Accepted data eLfanew layout) (alike : data.Alike data' 0 0 n)
    (dos : dosSize ≤ n) (fixed : eLfanew + 24 + layout.directoriesOffset ≤ n) :
    Accepted data' eLfanew layout := by
  have large : 0x60 ≤ layout.directoriesOffset := by cases layout <;> decide
  have inside' := alike.inside'
  have letters {part : Bytes} {off : Nat} (room : off + part.size ≤ n)
      (there : data.matchesAt part off) : data'.matchesAt part off := by
    rwa [Bytes.matchesAt_of_alike alike room]
  simp only [dosSize] at dos
  constructor
  · simp only [dosSize]
    omega
  · have short : dosSignature.size = 2 := rfl
    exact letters (by omega) accepted.dosLetters
  · rw [Bytes.number_of_alike alike (by simp only [eLfanewOffset]; omega)]
    exact accepted.located
  · have short : ntSignature.size = 4 := rfl
    exact letters (by omega) accepted.ntLetters
  · rw [Bytes.number_of_alike alike (by omega)]
    exact accepted.selected
  · omega

/-- The size of an image takes 32 bits. -/
theorem sizeOfImage_le {data : Bytes} {h : Header} {problems : List Problem}
    (found : read data = .ok (h, problems)) : h.sizeOfImage ≤ Address.max32 := by
  obtain ⟨eLfanew, layout, -, rfl⟩ := Accepted.of_read found
  exact Nat.le_of_lt_succ (Bytes.number_lt data _ 4)

end Header

end PeFacts
