import Mathlib
import PeFacts.Proofs.Stored

/-!
# Numbers that stand in a buffer

How a number is written, the low byte first, and how a record is written, field after field. A record
that stands in a buffer has each of its numbers at its place (`fieldsAt_of_matchesAt`): the place of
a field is the sum of the widths before it.
-/

namespace PeFacts

/-- A number in `width` bytes, the low byte first. -/
def littleEndian : (width n : Nat) → List UInt8
  | 0, _ => []
  | width + 1, n => n.toUInt8 :: littleEndian width (n / 256)

/-- A number in a record, with the bytes that it takes. -/
structure Field where
  width : Nat
  value : Nat
  deriving Repr, DecidableEq

/-- The number can be written in so many bytes. -/
def Field.Fits (f : Field) : Prop := f.value < 256 ^ f.width

instance (f : Field) : Decidable f.Fits := inferInstanceAs (Decidable (_ < _))

/-- The bytes of a record. -/
def fieldBytes (fields : List Field) : Bytes :=
  (fields.flatMap fun f => littleEndian f.width f.value).toArray

@[simp] theorem length_littleEndian (width n : Nat) : (littleEndian width n).length = width := by
  induction width generalizing n with
  | zero => rfl
  | succ width ih => rw [littleEndian, List.length_cons, ih]

@[simp] theorem fieldBytes_nil : fieldBytes [] = #[] := rfl

theorem fieldBytes_cons (f : Field) (rest : List Field) :
    fieldBytes (f :: rest) = (littleEndian f.width f.value).toArray ++ fieldBytes rest := by
  simp [fieldBytes]

theorem size_fieldBytes (fields : List Field) :
    (fieldBytes fields).size = (fields.map Field.width).sum := by
  induction fields with
  | nil => rfl
  | cons f rest ih =>
    rw [fieldBytes_cons, Array.size_append, ih, List.size_toArray, length_littleEndian,
      List.map_cons, List.sum_cons]

namespace Bytes

variable {data : Bytes}

/-- The numbers of the fields stand one after the other from `off` on. -/
def FieldsAt (data : Bytes) (off : Nat) : List Field → Prop
  | [] => True
  | f :: rest => data.number off f.width = f.value ∧ FieldsAt data (off + f.width) rest

/-- A number that stands in a buffer is read back, but for what does not fit into its width. -/
theorem number_of_littleEndian {off width n : Nat}
    (stored : data.matchesAt (littleEndian width n).toArray off) :
    data.number off width = n % 256 ^ width := by
  induction width generalizing off n with
  | zero => rw [number, Nat.pow_zero, Nat.mod_one]
  | succ width ih =>
    have split : (littleEndian (width + 1) n).toArray =
        #[n.toUInt8] ++ (littleEndian width (n / 256)).toArray := by
      simp [littleEndian]
    rw [split] at stored
    obtain ⟨low, high⟩ := matchesAt_append_iff.1 stored
    have low_byte : data.byte off = n % 256 := by
      have there := byte_of_matchesAt low (i := 0) (by simp)
      simpa [byte] using there
    have high_bytes : data.number (off + 1) width = n / 256 % 256 ^ width := ih high
    rw [number, low_byte, high_bytes, Nat.pow_succ', Nat.mod_mul]

/-- The bytes of a number that is read are those it is read from. -/
theorem littleEndian_number {off width : Nat} (room : off + width ≤ data.size) :
    littleEndian width (data.number off width) = (data.toList.drop off).take width := by
  induction width generalizing off with
  | zero => rfl
  | succ width ih =>
    have inside : off < data.toList.length := by
      rw [Array.length_toList]
      omega
    have first : data.byte off = data[off].toNat := by
      rw [byte, Array.getD_eq_getD_getElem?, Array.getElem?_eq_getElem (by omega), Option.getD_some]
    have small := data.byte_lt off
    have low : (data.byte off + 256 * data.number (off + 1) width).toUInt8 = data[off] := by
      apply UInt8.toNat_inj.1
      rw [Nat.toUInt8_eq, UInt8.toNat_ofNat', ← first]
      omega
    have high : (data.byte off + 256 * data.number (off + 1) width) / 256 =
        data.number (off + 1) width := by omega
    rw [number, littleEndian, low, high, ih (by omega), List.drop_eq_getElem_cons inside,
      List.take_succ_cons, Array.getElem_toList]

theorem fieldsAt_of_matchesAt {off : Nat} {fields : List Field}
    (stored : data.matchesAt (fieldBytes fields) off) (fit : ∀ f ∈ fields, f.Fits) :
    data.FieldsAt off fields := by
  induction fields generalizing off with
  | nil => exact trivial
  | cons f rest ih =>
    rw [fieldBytes_cons] at stored
    obtain ⟨first, others⟩ := matchesAt_append_iff.1 stored
    constructor
    · rw [number_of_littleEndian first]
      exact Nat.mod_eq_of_lt (fit f List.mem_cons_self)
    · rw [List.size_toArray, length_littleEndian] at others
      exact ih others fun g hg => fit g (List.mem_cons_of_mem f hg)

end Bytes

end PeFacts
