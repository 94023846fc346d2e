import Mathlib.Data.Nat.Find
import PeFacts.Proofs.Stored

/-!
# Spans that are alike

Two buffers may hold the same bytes at different positions: `Bytes.Alike`. What is read inside such a
span is the same in both. So is a text, which is looked for beyond the span, if its zero byte stands
in the span (`Alike.cString?_eq`). A buffer comes to hold the bytes of another by `Bytes.write`.
-/

namespace PeFacts.Bytes

/-- The `size` bytes at `off` in one buffer are those at `off'` in another one. -/
structure Alike (data data' : Bytes) (off off' size : Nat) : Prop where
  inside : off + size ≤ data.size
  inside' : off' + size ≤ data'.size
  bytes : ∀ i < size, data.byte (off + i) = data'.byte (off' + i)

/-- The buffer with other bytes from `off` on. -/
def write (data : Bytes) (off : Nat) (part : Bytes) : Bytes :=
  data.extract 0 off ++ part ++ data.extract (off + part.size) data.size

variable {data data' part : Bytes} {off off' size width : Nat}

/-! ## Reading in a span -/

/-- Behind the first item of an array the others come one place earlier. -/
theorem item_succ (off width i : Nat) : off + width + width * i = off + width * (i + 1) := by
  rw [Nat.mul_succ]
  omega

namespace Alike

theorem within (h : data.Alike data' off off' size) {i n : Nat} (room : i + n ≤ size) :
    data.Alike data' (off + i) (off' + i) n where
  inside := by have inside := h.inside; omega
  inside' := by have inside := h.inside'; omega
  bytes k hk := by
    rw [Nat.add_assoc, Nat.add_assoc]
    exact h.bytes (i + k) (by omega)

/-- The first bytes of a span. -/
theorem first (h : data.Alike data' off off' size) {n : Nat} (le : n ≤ size) :
    data.Alike data' off off' n :=
  h.within (i := 0) (by omega)

/-- An array that is not over goes on behind its first item. -/
theorem next_item (h : data.Alike data' off off' (width * (size + 1 + 1))) :
    data.Alike data' (off + width) (off' + width) (width * (size + 1)) :=
  h.within (by rw [Nat.mul_succ width (size + 1)]; omega)

theorem number_eq (h : data.Alike data' off off' size) (le : width ≤ size) :
    data.number off width = data'.number off' width :=
  number_congr fun i hi => h.bytes i (by omega)

theorem number?_eq (h : data.Alike data' off off' size) (le : width ≤ size) :
    data.number? off width = data'.number? off' width := by
  have there := holds_iff.2 (h.first le).inside
  have there' := holds_iff.2 (h.first le).inside'
  rw [number?, number?, if_pos there, if_pos there', h.number_eq le]

theorem extract_eq (h : data.Alike data' off off' size) :
    data.extract off (off + size) = data'.extract off' (off' + size) := by
  have inside := h.inside
  have inside' := h.inside'
  refine Array.ext (by simp only [Array.size_extract]; omega) fun i hi hi' => ?_
  rw [Array.size_extract] at hi hi'
  have same := h.bytes i (by omega)
  unfold byte at same
  rw [Array.getD_eq_getD_getElem?, Array.getD_eq_getD_getElem?,
    Array.getElem?_eq_getElem (by omega), Array.getElem?_eq_getElem (by omega)] at same
  rw [Array.getElem_extract, Array.getElem_extract]
  exact UInt8.toNat_inj.1 same

theorem span?_eq (h : data.Alike data' off off' size) :
    data.span? off size = data'.span? off' size := by
  rw [span?, span?, if_pos (holds_iff.2 h.inside), if_pos (holds_iff.2 h.inside'), h.extract_eq]

theorem matchesAt_eq (h : data.Alike data' off off' part.size) :
    data.matchesAt part off = data'.matchesAt part off' := by
  rw [matchesAt, matchesAt, holds_iff.2 h.inside, holds_iff.2 h.inside', h.extract_eq]

/-- A text that ends in the span is read alike, for bounds that do not count back from the end. -/
theorem cString?_eq (h : data.Alike data' off off' size) {k : Nat} (hk : k < size)
    (zero : data'.byte (off' + k) = 0) {maxLength : Int} (forward : 0 ≤ maxLength) :
    data.cString? off maxLength = data'.cString? off' maxLength := by
  -- The text ends at the first zero byte, which may stand before the `k`-th byte.
  have some_zero : ∃ k, k < size ∧ data'.byte (off' + k) = 0 := ⟨k, hk, zero⟩
  obtain ⟨inside, ended⟩ := Nat.find_spec some_zero
  have before {i : Nat} (hi : i < Nat.find some_zero) : data'.byte (off' + i) ≠ 0 := by
    intro zero
    exact Nat.find_min some_zero hi ⟨by omega, zero⟩
  generalize Nat.find some_zero = n at inside ended before
  have there := h.inside
  have there' := h.inside'
  rw [Bytes.cString?_eq ended (fun i => before) (by omega) forward,
    Bytes.cString?_eq ((h.bytes n inside).trans ended)
      (fun i hi => by rw [h.bytes i (by omega)]; exact before hi) (by omega) forward,
    (h.first (Nat.le_of_lt inside)).extract_eq]

end Alike

/-! ### Alike from the beginning on -/

section

variable {n : Nat} (alike : data.Alike data' 0 0 n)

include alike

theorem number_of_alike (room : off + width ≤ n) : data'.number off width = data.number off width := by
  have there := alike.within (i := off) room
  rw [Nat.zero_add] at there
  exact (there.number_eq (Nat.le_refl _)).symm

theorem number?_of_alike (room : off + width ≤ n) :
    data'.number? off width = data.number? off width := by
  have there := alike.within (i := off) room
  rw [Nat.zero_add] at there
  exact (there.number?_eq (Nat.le_refl _)).symm

theorem matchesAt_of_alike (room : off + part.size ≤ n) :
    data'.matchesAt part off = data.matchesAt part off := by
  have there := alike.within (i := off) room
  rw [Nat.zero_add] at there
  exact there.matchesAt_eq.symm

theorem extract_of_alike {stop : Nat} (room : stop ≤ n) :
    data'.extract off stop = data.extract off stop := by
  by_cases before : off ≤ stop
  · obtain ⟨size, rfl⟩ := Nat.exists_eq_add_of_le before
    have there := alike.within (i := off) room
    rw [Nat.zero_add] at there
    exact there.extract_eq.symm
  · have behind := Nat.le_of_not_le before
    rw [Array.extract_empty_of_stop_le_start behind, Array.extract_empty_of_stop_le_start behind]

end

/-! ## Writing -/

theorem size_clamped (room : off + size ≤ data.size) : (data.clamped off size).size = size := by
  rw [clamped, Array.size_extract]
  omega

theorem byte_clamped (room : off + size ≤ data.size) {i : Nat} (hi : i < size) :
    (data.clamped off size).byte i = data.byte (off + i) := by
  unfold byte clamped
  rw [Array.getD_eq_getD_getElem?, Array.getD_eq_getD_getElem?, Array.getElem?_extract,
    if_pos (by omega)]

theorem size_write (room : off + part.size ≤ data.size) :
    (data.write off part).size = data.size := by
  simp only [write, Array.size_append, Array.size_extract]
  omega

theorem byte_write (room : off + part.size ≤ data.size) (i : Nat) :
    (data.write off part).byte i =
      if off ≤ i ∧ i < off + part.size then part.byte (i - off) else data.byte i := by
  have first : (data.extract 0 off).size = off := by
    rw [Array.size_extract]
    omega
  have both : (data.extract 0 off ++ part).size = off + part.size := by
    rw [Array.size_append, first]
  unfold byte
  simp only [write, Array.getD_eq_getD_getElem?]
  by_cases before : i < off
  · rw [if_neg (by omega), Array.getElem?_append_left (by omega),
      Array.getElem?_append_left (by omega), Array.getElem?_extract, if_pos (by omega), Nat.zero_add]
  · by_cases inside : i < off + part.size
    · rw [if_pos (by omega), Array.getElem?_append_left (by omega),
        Array.getElem?_append_right (by omega), first]
    · rw [if_neg (by omega), Array.getElem?_append_right (by omega), both, Array.getElem?_extract]
      by_cases there : i < data.size
      · rw [if_pos (by omega)]
        congr 3
        omega
      · rw [if_neg (by omega), Array.getElem?_eq_none (by omega)]

/-- What is written stands there. -/
theorem byte_write_inside (room : off + part.size ≤ data.size) {i : Nat} (hi : i < part.size) :
    (data.write off part).byte (off + i) = part.byte i := by
  rw [byte_write room, if_pos (by omega), Nat.add_sub_cancel_left]

theorem byte_write_apart (room : off + part.size ≤ data.size) {i : Nat}
    (apart : i < off ∨ off + part.size ≤ i) : (data.write off part).byte i = data.byte i := by
  rw [byte_write room, if_neg (by omega)]

/-- A number that does not reach what is written stays. -/
theorem number_write_apart (room : off + part.size ≤ data.size) {off' : Nat}
    (apart : off' + width ≤ off ∨ off + part.size ≤ off') :
    (data.write off part).number off' width = data.number off' width :=
  number_congr fun i hi => byte_write_apart room (by omega)

theorem matchesAt_write (room : off + part.size ≤ data.size) :
    (data.write off part).matchesAt part off := by
  have there : (data.write off part).Alike part off 0 part.size :=
    ⟨by rw [size_write room]; exact room, by omega,
      fun i hi => by rw [byte_write_inside room hi, Nat.zero_add]⟩
  rw [there.matchesAt_eq]
  exact matchesAt_iff.2 ⟨by omega, by rw [Nat.zero_add, Array.extract_size]⟩

theorem matchesAt_write_apart (room : off + part.size ≤ data.size) {needle : Bytes} {off' : Nat}
    (apart : off' + needle.size ≤ off ∨ off + part.size ≤ off')
    (there : data.matchesAt needle off') : (data.write off part).matchesAt needle off' := by
  have inside := (matchesAt_iff.1 there).1
  have alike : (data.write off part).Alike data off' off' needle.size :=
    ⟨by rw [size_write room]; exact inside, inside,
      fun i hi => byte_write_apart room (by omega)⟩
  rwa [alike.matchesAt_eq]

end PeFacts.Bytes
