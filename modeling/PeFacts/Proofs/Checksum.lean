import Mathlib
import PeFacts.Proofs.Checksum.Sum
import PeFacts.Proofs.Mapping.Header
import PeFacts.Proofs.Truncation
import PeFacts.Proofs.Stored.Field

/-!
# The stored checksum

Storing a checksum in an image changes that field of its headers and no other
(`Header.Accepted.decode_store`). The checksum that the image should have stays the same whatever is
stored, if the field is one of the words that are added: then it is the word that is left out.
Elsewhere it reaches into the next word, and what is stored there counts (`calculate_store_iff`).
-/

namespace PeFacts

open Checksum

/-- The buffer with a checksum stored at a position. -/
def Bytes.store (data : Bytes) (off checksum : Nat) : Bytes :=
  data.write off (littleEndian 4 checksum).toArray

namespace Bytes

variable {data : Bytes} {off : Nat}

theorem size_littleEndian (width n : Nat) : (littleEndian width n).toArray.size = width := by
  rw [List.size_toArray, length_littleEndian]

section Room

variable (room : off + 4 ≤ data.size) (checksum : Nat)

include room

theorem room_littleEndian : off + (littleEndian 4 checksum).toArray.size ≤ data.size := by
  rw [size_littleEndian]
  exact room

theorem size_store : (data.store off checksum).size = data.size :=
  size_write (room_littleEndian room checksum)

theorem number_store_apart {off' width : Nat} (apart : off' + width ≤ off ∨ off + 4 ≤ off') :
    (data.store off checksum).number off' width = data.number off' width :=
  number_write_apart (room_littleEndian room checksum) (by rw [size_littleEndian]; exact apart)

theorem matchesAt_store_apart {needle : Bytes} {off' : Nat}
    (apart : off' + needle.size ≤ off ∨ off + 4 ≤ off') (there : data.matchesAt needle off') :
    (data.store off checksum).matchesAt needle off' :=
  matchesAt_write_apart (room_littleEndian room checksum) (by rw [size_littleEndian]; exact apart)
    there

/-- What is stored is read back. -/
theorem number_store (narrow : checksum < 0x100000000) :
    (data.store off checksum).number off 4 = checksum := by
  unfold store
  rw [number_of_littleEndian (matchesAt_write (room_littleEndian room checksum))]
  exact Nat.mod_eq_of_lt narrow

end Room

end Bytes

namespace Header

variable {data : Bytes} {eLfanew : Nat} {layout : HeaderLayout}

/-- The field is inside the part of the headers that is always there. -/
theorem Accepted.checksum_room (accepted : Accepted data eLfanew layout) :
    eLfanew + 88 + 4 ≤ data.size := by
  have large : 0x60 ≤ layout.directoriesOffset := by cases layout <;> decide
  have fixed := accepted.fixed
  omega

/-- Storing a checksum leaves an image. -/
theorem Accepted.store (accepted : Accepted data eLfanew layout) (checksum : Nat) :
    Accepted (data.store (eLfanew + 88) checksum) eLfanew layout := by
  have room := accepted.checksum_room
  have large : 0x60 ≤ layout.directoriesOffset := by cases layout <;> decide
  constructor
  · rw [Bytes.size_store room]
    exact accepted.dos
  · apply Bytes.matchesAt_store_apart room checksum _ accepted.dosLetters
    have short : dosSignature.size = 2 := rfl
    omega
  · rw [Bytes.number_store_apart room checksum (by simp only [eLfanewOffset]; omega)]
    exact accepted.located
  · apply Bytes.matchesAt_store_apart room checksum _ accepted.ntLetters
    have short : ntSignature.size = 4 := rfl
    omega
  · rw [Bytes.number_store_apart room checksum (by omega)]
    exact accepted.selected
  · rw [Bytes.size_store room]
    exact accepted.fixed

/-- Storing a checksum changes no other field of the headers. -/
theorem Accepted.decode_store (accepted : Accepted data eLfanew layout) {checksum : Nat}
    (narrow : checksum < 0x100000000) :
    decode (data.store (eLfanew + 88) checksum) eLfanew layout =
      { decode data eLfanew layout with checksum } := by
  have room := accepted.checksum_room
  have fixed := accepted.fixed
  have large : 0x60 ≤ layout.directoriesOffset := by cases layout <;> decide
  have count : layout.directoryCountOffset + 4 = layout.directoriesOffset := by cases layout <;> rfl
  have base : layout.imageBaseOffset + layout.imageBaseSize ≤ 0x40 := by cases layout <;> decide
  have size := Bytes.size_store room checksum
  have here := Bytes.number_store room checksum narrow
  have number {off width : Nat} (apart : off + width ≤ eLfanew + 88 ∨ eLfanew + 88 + 4 ≤ off) :
      (data.store (eLfanew + 88) checksum).number off width = data.number off width :=
    Bytes.number_store_apart room checksum apart
  have table (count : Nat) :
      directoryTable (data.store (eLfanew + 88) checksum)
          (eLfanew + (24 + layout.directoriesOffset)) count =
        directoryTable data (eLfanew + (24 + layout.directoriesOffset)) count := by
    refine List.map_congr_left fun k _ => ?_
    rw [number (by omega), number (by omega)]
  simp (disch := omega) only [decode, versionAt, coffSize, checksumFieldOffset, Nat.add_assoc,
    Nat.reduceAdd, number, here, table, directoryCount, size]

end Header

namespace Checksum

variable {data : Bytes} {off : Nat}

/-- Where it is one of the words that are added, the field is the word that is left out. -/
theorem total_store_of_aligned (aligned : 4 ∣ off) (room : off + 4 ≤ data.size) (checksum : Nat) :
    total (data.store off checksum) ((off : Int) / 4) = total data ((off : Int) / 4) := by
  unfold total
  rw [Bytes.size_store room]
  refine Finset.sum_congr rfl fun i _ => ?_
  split
  · rfl
  · exact Bytes.number_store_apart room checksum (by omega)

/-- The number whose only byte other than zero is the first one of the field that stands in the next
word. -/
def reaching (off : Nat) : Nat := 256 ^ (4 - off % 4)

theorem reaching_lt (unaligned : off % 4 ≠ 0) : reaching off < 0x100000000 := by
  have few : 4 - off % 4 ≤ 3 := by omega
  have small : 256 ^ (4 - off % 4) ≤ 256 ^ 3 := Nat.pow_le_pow_right (by decide) few
  unfold reaching
  omega

theorem byte_littleEndian_reaching (unaligned : off % 4 ≠ 0) {i : Nat} (inside : i < 4) :
    Bytes.byte (littleEndian 4 (reaching off)).toArray i =
      Bytes.byte (littleEndian 4 0).toArray i + if i = 4 - off % 4 then 1 else 0 := by
  have small : off % 4 < 4 := Nat.mod_lt _ (by decide)
  unfold reaching
  generalize off % 4 = r at unaligned small
  interval_cases r
  · exact absurd rfl unaligned
  all_goals interval_cases i <;> decide

section Unaligned

variable (unaligned : off % 4 ≠ 0) (room : off + 4 ≤ data.size)

include unaligned room

theorem byte_store_reaching (i : Nat) :
    (data.store off (reaching off)).byte i =
      (data.store off 0).byte i + if i = 4 * (off / 4 + 1) then 1 else 0 := by
  unfold Bytes.store
  rw [Bytes.byte_write (Bytes.room_littleEndian room _),
    Bytes.byte_write (Bytes.room_littleEndian room _), Bytes.size_littleEndian,
    Bytes.size_littleEndian]
  by_cases inside : off ≤ i ∧ i < off + 4
  · have same : i - off = 4 - off % 4 ↔ i = 4 * (off / 4 + 1) := by omega
    rw [if_pos inside, if_pos inside, byte_littleEndian_reaching unaligned (by omega)]
    simp only [same]
  · rw [if_neg inside, if_neg inside, if_neg (by omega)]
    rfl

/-- Only the next word is another one, by one. -/
theorem word_store_reaching (i : Nat) :
    (data.store off (reaching off)).number (4 * i) 4 =
      (data.store off 0).number (4 * i) 4 + if i = off / 4 + 1 then 1 else 0 := by
  have low := byte_store_reaching unaligned room (4 * i)
  have high : (data.store off (reaching off)).number (4 * i + 1) 3 =
      (data.store off 0).number (4 * i + 1) 3 := by
    apply Bytes.number_congr
    intro k hk
    rw [byte_store_reaching unaligned room, if_neg (by omega)]
    rfl
  have same : 4 * i = 4 * (off / 4 + 1) ↔ i = off / 4 + 1 := by omega
  have split (d : Bytes) : d.number (4 * i) 4 = d.byte (4 * i) + 256 * d.number (4 * i + 1) 3 := rfl
  simp only [same] at low
  rw [split, split, low, high]
  omega

/-- Elsewhere the field reaches into the next word, and what is stored there counts. -/
theorem total_store_reaching :
    total (data.store off (reaching off)) ((off : Int) / 4) =
      total (data.store off 0) ((off : Int) / 4) + 1 := by
  have counted : off / 4 + 1 ∈ Finset.range ((data.size + 3) / 4) := Finset.mem_range.2 (by omega)
  have term (i : Nat) : (if (i : Int) = (off : Int) / 4 then 0
        else (data.store off (reaching off)).number (4 * i) 4) =
      (if (i : Int) = (off : Int) / 4 then 0 else (data.store off 0).number (4 * i) 4) +
        if i = off / 4 + 1 then 1 else 0 := by
    split
    · rw [if_neg (by omega)]
    · exact word_store_reaching unaligned room i
  unfold total
  rw [Bytes.size_store room, Bytes.size_store room, Finset.sum_congr rfl fun i _ => term i,
    Finset.sum_add_distrib, Finset.sum_ite_eq', if_pos counted]

end Unaligned

/-- What is stored makes no difference to the checksum just where the field is one of the words that
are added. -/
theorem calculate_store_iff (room : off + 4 ≤ data.size) :
    (∀ checksum < 0x100000000, calculate (data.store off checksum) off = calculate data off) ↔
      4 ∣ off := by
  constructor
  · intro same
    by_contra other
    have unaligned : off % 4 ≠ 0 := fun zero => other (Nat.dvd_of_mod_eq_zero zero)
    have equal : calculate (data.store off (reaching off)) off = calculate (data.store off 0) off :=
      (same _ (reaching_lt unaligned)).trans (same 0 (by decide)).symm
    rw [calculate_eq, calculate_eq, Bytes.size_store room, Bytes.size_store room,
      total_store_reaching unaligned room] at equal
    have differ := digest_succ_ne (total (data.store off 0) ((off : Int) / 4))
    have le := digest_le (total (data.store off 0) ((off : Int) / 4))
    have le' := digest_le (total (data.store off 0) ((off : Int) / 4) + 1)
    omega
  · intro aligned checksum _
    rw [calculate_eq, calculate_eq, Bytes.size_store room, total_store_of_aligned aligned room]

theorem calculate_lt (data : Bytes) (offset : Int) : calculate data offset < 0x100000000 :=
  Nat.mod_lt _ (by decide)

end Checksum

namespace Image

/-- Whatever was asked before, this is the checksum that the image should have. -/
def Calculates (i : Image) (checksum : Nat) : Prop :=
  ∀ past, (i.ask .calculatedChecksum (i.after past)).1 = .ok (.nat checksum)

/-- Whatever was asked before, this is the checksum that the headers of the image say. -/
def Stores (i : Image) (checksum : Nat) : Prop :=
  ∀ past, (i.ask (.fact .checksum) (i.after past)).1 = .ok (.nat checksum)

variable {i : Image} {h : Header}

theorem calculates_iff (header : i.header? = some h) {checksum : Nat} :
    i.Calculates checksum ↔ Checksum.calculate i.data h.checksumOffset = checksum := by
  have there : i.checksum? = some (Checksum.calculate i.data h.checksumOffset) := by
    rw [checksum?, header]
    rfl
  have gives : Gives i (i.answer .calculatedChecksum)
      (.ok (.nat (Checksum.calculate i.data h.checksumOffset))) [] := by
    have mapped := (Gives.guarded i.yields_checksum).map (Value.option .nat)
    rw [there] at mapped
    exact mapped
  constructor
  · intro calculates
    have same := (gives.run_after []).symm.trans (calculates [])
    exact Int.ofNat.inj (Value.int.inj (Except.ok.inj same))
  · rintro rfl past
    exact gives.run_after past

/-- Storing a checksum in an image leaves one, whose headers say this checksum. -/
theorem header_read_store {data : Bytes} {eLfanew : Nat} {layout : HeaderLayout}
    (accepted : Header.Accepted data eLfanew layout) (mode : ScanMode) (limits : Limits)
    (reader : SignatureReader) {v : Nat} (narrow : v < 0x100000000) :
    (read (data.store (eLfanew + 88) v) mode limits reader).header? =
      some { Header.decode data eLfanew layout with checksum := v } := by
  have found := (accepted.store v).read
  rw [accepted.decode_store narrow] at found
  exact (read_of_ok mode limits reader found).1

theorem calculates_read_store_iff {data : Bytes} {eLfanew : Nat} {layout : HeaderLayout}
    (accepted : Header.Accepted data eLfanew layout) (mode : ScanMode) (limits : Limits)
    (reader : SignatureReader) {v c : Nat} (narrow : v < 0x100000000) :
    (read (data.store (eLfanew + 88) v) mode limits reader).Calculates c ↔
      Checksum.calculate (data.store (eLfanew + 88) v) ((eLfanew + 88 : Nat) : Int) = c := by
  rw [calculates_iff (header_read_store accepted mode limits reader narrow), read_data]
  rfl

theorem stores_of_header (header : i.header? = some h) : i.Stores h.checksum := by
  intro past
  have value : (i.ask (.fact .checksum) (i.after past)).1 =
      .ok (i.headerValue fun h => .nat h.checksum) := rfl
  rw [value, headerValue, header]
  rfl

end Image

/-- Any checksum can be stored in an image, and its headers then say this one and otherwise what they
said. The checksum that it should have is not changed by that, whatever is stored, just when the
headers begin at a multiple of four; then the one that it should have can be stored. -/
theorem stored_checksum_is_left_out_iff (data : Bytes) (mode : ScanMode) (limits : Limits)
    (reader : SignatureReader) (i : Image) (loaded : Image.load data mode limits reader = .ok i)
    (h : Header) (header : i.header? = some h) :
    ∃ c < 0x100000000, i.Calculates c ∧
      (∀ v < 0x100000000, ∃ i',
        Image.load (data.store h.checksumOffset v) mode limits reader = .ok i' ∧
          i'.header? = some { h with checksum := v } ∧ i'.Stores v) ∧
      ((∀ v < 0x100000000, ∀ i',
        Image.load (data.store h.checksumOffset v) mode limits reader = .ok i' → i'.Calculates c) ↔
          4 ∣ h.eLfanew) ∧
      (4 ∣ h.eLfanew → ∀ i',
        Image.load (data.store h.checksumOffset c) mode limits reader = .ok i' →
          i'.Stores c ∧ i'.Calculates c) := by
  rw [Image.load_eq] at loaded
  cases loaded
  obtain ⟨eLfanew, layout, accepted, rfl⟩ : ∃ eLfanew layout,
      Header.Accepted data eLfanew layout ∧ h = Header.decode data eLfanew layout := by
    cases found : Header.read data with
    | error p =>
      rw [(Image.read_of_error mode limits reader found).1] at header
      cases header
    | ok reading =>
      rw [(Image.read_of_ok mode limits reader (h := reading.1) found).1] at header
      cases header
      exact Header.Accepted.of_read found
  have room := accepted.checksum_room
  have aligned : 4 ∣ eLfanew + 88 ↔ 4 ∣ eLfanew := by omega
  have stored {v : Nat} (narrow : v < 0x100000000) :=
    Image.header_read_store accepted mode limits reader narrow
  have calculates {v c : Nat} (narrow : v < 0x100000000) :=
    Image.calculates_read_store_iff accepted mode limits reader (c := c) narrow
  refine ⟨Checksum.calculate data ((eLfanew + 88 : Nat) : Int), calculate_lt _ _, ?_, ?_, ?_, ?_⟩
  · rw [Image.calculates_iff header, Image.read_data]
    rfl
  · intro v narrow
    exact ⟨_, Image.load_eq .., stored narrow, Image.stores_of_header (stored narrow)⟩
  · rw [show 4 ∣ (Header.decode data eLfanew layout).eLfanew ↔ 4 ∣ eLfanew from Iff.rfl, ← aligned,
      ← calculate_store_iff room]
    constructor
    · intro same v narrow
      exact (calculates narrow).1 (same v narrow _ (Image.load_eq ..))
    · intro same v narrow i' loaded
      rw [Image.load_eq] at loaded
      obtain rfl := Except.ok.inj loaded
      exact (calculates narrow).2 (same v narrow)
  · intro four i' loaded
    rw [Image.load_eq] at loaded
    obtain rfl := Except.ok.inj loaded
    have narrow := calculate_lt data ((eLfanew + 88 : Nat) : Int)
    exact ⟨Image.stores_of_header (stored narrow), (calculates narrow).2
      ((calculate_store_iff room).2 (aligned.2 four) _ narrow)⟩

/-- An image whose other headers begin at position 67. -/
def unalignedFile : Bytes := List.toArray <|
  [0x4D, 0x5A] ++ List.replicate 58 0 ++ [67] ++ List.replicate 6 0 ++
    [0x50, 0x45, 0, 0, 0x4C, 1] ++ List.replicate 18 0 ++ [0x0B, 1] ++ List.replicate 95 0

/-- The checksum that it should have is another one once it is stored. -/
theorem unaligned_checksum_counts :
    ∃ i h, Image.load unalignedFile .file {} .standard = .ok i ∧ i.header? = some h ∧
      h.eLfanew = 67 ∧ i.Calculates 660 ∧
      (∃ i', Image.load (unalignedFile.store h.checksumOffset 660) .file {} .standard = .ok i' ∧
        i'.Stores 660 ∧ i'.Calculates 662) ∧
      ¬ ∀ v < 0x100000000, ∀ i',
        Image.load (unalignedFile.store h.checksumOffset v) .file {} .standard = .ok i' →
          i'.Calculates 660 := by
  have located : (Image.read unalignedFile).header?.map (fun h => (h.eLfanew, h.checksumOffset)) =
      some (67, 155) := by decide +kernel
  obtain ⟨h, header, place⟩ := Option.map_eq_some_iff.1 located
  obtain ⟨begins, there⟩ := Prod.mk.inj place
  have should : Checksum.calculate unalignedFile (155 : Nat) = 660 := by decide +kernel
  have should' : Checksum.calculate (unalignedFile.store 155 660) (155 : Nat) = 662 := by
    decide +kernel
  obtain ⟨c, -, calculates, stores, iff, -⟩ := stored_checksum_is_left_out_iff unalignedFile .file {}
    .standard _ (Image.load_eq ..) h header
  have same : c = 660 := by
    rw [← (Image.calculates_iff header).1 calculates, Image.read_data, there]
    exact should
  subst same
  obtain ⟨i', loaded, header', stored⟩ := stores 660 (by decide)
  refine ⟨_, h, Image.load_eq .., header, begins, calculates, ⟨i', loaded, stored, ?_⟩, ?_⟩
  · have moved : ({ h with checksum := 660 } : Header).checksumOffset = 155 := there
    rw [Image.load_eq] at loaded
    obtain rfl := Except.ok.inj loaded
    rw [Image.calculates_iff header', Image.read_data, moved, there]
    exact should'
  · rw [iff, begins]
    decide

end PeFacts
