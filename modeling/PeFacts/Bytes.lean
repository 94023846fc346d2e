/-!
# Byte buffers

A `Bytes` is the content of a file or of a memory image. Positions and sizes are natural
numbers; a position that a caller may give below zero is first read by `Bytes.position?`.
Every reader with a `?` answers `none` when its span is not wholly inside the buffer, and
`number` is the total little-endian reading that the readers agree with where the span is
readable (`number?_eq_some_iff`).
-/

namespace PeFacts

/-- The bytes of a file or of a memory image, first byte at position 0. -/
abbrev Bytes := Array UInt8

namespace Bytes

/-- The byte at `off`, zero past the end. -/
def byte (data : Bytes) (off : Nat) : Nat := (data.getD off 0).toNat

/-- The little-endian number in the `width` bytes at `off`; bytes past the end read as zero. -/
def number (data : Bytes) (off : Nat) : Nat → Nat
  | 0 => 0
  | width + 1 => data.byte off + 256 * number data (off + 1) width

/-- The span of `size` bytes at `off` is wholly inside the buffer. -/
def holds (data : Bytes) (off size : Nat) : Bool := off + size ≤ data.size

/-- The little-endian number in the `width` bytes at `off`, when they are all there. -/
def number? (data : Bytes) (off width : Nat) : Option Nat :=
  if data.holds off width then some (data.number off width) else none

/-- One byte. -/
def u8? (data : Bytes) (off : Nat) : Option Nat := data.number? off 1

/-- A 16-bit little-endian number. -/
def u16? (data : Bytes) (off : Nat) : Option Nat := data.number? off 2

/-- A 32-bit little-endian number. -/
def u32? (data : Bytes) (off : Nat) : Option Nat := data.number? off 4

/-- A 64-bit little-endian number. -/
def u64? (data : Bytes) (off : Nat) : Option Nat := data.number? off 8

/-- The `size` bytes at `off`, when they are all there. -/
def span? (data : Bytes) (off size : Nat) : Option Bytes :=
  if data.holds off size then some (data.extract off (off + size)) else none

/-- At most `size` bytes at `off`, cut at the end of the buffer. -/
def clamped (data : Bytes) (off size : Nat) : Bytes := data.extract off (off + size)

/-- A position that callers may leave below zero: below zero it addresses nothing. -/
def position? (off : Int) : Option Nat := if off < 0 then none else some off.toNat

/-- The cut that the signed bound `i` makes in a sequence of length `n`: below zero it counts
back from the end, and both ends of the sequence limit it. -/
def cut (n : Nat) (i : Int) : Nat := if i < 0 then (i + n).toNat else min i.toNat n

/-- The bytes of `needle` stand at `off`, all of them inside the buffer. -/
def matchesAt (data needle : Bytes) (off : Nat) : Bool :=
  data.holds off needle.size && data.extract off (off + needle.size) == needle

/-- The first of the `count` positions from `off` at which `needle` stands. -/
def findFrom (data needle : Bytes) (off : Nat) : Nat → Option Nat
  | 0 => none
  | count + 1 => if data.matchesAt needle off then some off else findFrom data needle (off + 1) count

/-- The first occurrence of `needle` that lies wholly between `start` and the cut at `stop`. -/
def find? (data needle : Bytes) (start : Nat) (stop : Int) : Option Nat :=
  let last := cut data.size (min stop data.size)
  data.findFrom needle start (last + 1 - needle.size - start)

/-- The first of the `count` positions from `off` that holds a zero byte. -/
def zeroByte? (data : Bytes) (off : Nat) : Nat → Option Nat
  | 0 => none
  | count + 1 => if data.byte off = 0 then some off else zeroByte? data (off + 1) count

/-- The first of `count` consecutive 16-bit units from `off` that is zero, by its position. -/
def zeroUnit? (data : Bytes) (off : Nat) : Nat → Option Nat
  | 0 => none
  | count + 1 => if data.number off 2 = 0 then some off else zeroUnit? data (off + 2) count

theorem byte_lt (data : Bytes) (off : Nat) : data.byte off < 256 := by
  unfold byte
  exact (data.getD off 0).toNat_lt

/-- A reading of `width` bytes has at most `8 * width` bits. -/
theorem number_lt (data : Bytes) (off width : Nat) :
    data.number off width < 1 <<< (8 * width) := by
  induction width generalizing off with
  | zero => simp [number]
  | succ width ih =>
    have hb := data.byte_lt off
    have hr := ih (off + 1)
    have grow : 1 <<< (8 * (width + 1)) = 1 <<< (8 * width) * 256 := by
      rw [Nat.mul_add, Nat.shiftLeft_add, Nat.shiftLeft_eq _ (8 * 1)]
    rw [number, grow]
    omega

/-- A number is read off its bytes, also where they are past the end. -/
theorem number_congr {data data' : Bytes} {off off' width : Nat}
    (same : ∀ i < width, data.byte (off + i) = data'.byte (off' + i)) :
    data.number off width = data'.number off' width := by
  induction width generalizing off off' with
  | zero => rfl
  | succ width ih =>
    have low : data.byte off = data'.byte off' := same 0 (by omega)
    have high : data.number (off + 1) width = data'.number (off' + 1) width := by
      refine ih fun i hi => ?_
      rw [Nat.add_assoc, Nat.add_assoc, Nat.add_comm 1 i]
      exact same (i + 1) (by omega)
    rw [number, number, low, high]

@[simp] theorem holds_iff {data : Bytes} {off size : Nat} :
    data.holds off size = true ↔ off + size ≤ data.size := by
  simp [holds]

theorem number?_eq_some_iff {data : Bytes} {off width n : Nat} :
    data.number? off width = some n ↔ off + width ≤ data.size ∧ data.number off width = n := by
  simp [number?]

theorem span?_eq_some_iff {data part : Bytes} {off size : Nat} :
    data.span? off size = some part ↔
      off + size ≤ data.size ∧ data.extract off (off + size) = part := by
  simp [span?]

/-- One hexadecimal digit, in lower case. -/
def hexDigit (n : Nat) : Char := "0123456789abcdef".toList.getD n '0'

/-- Two lower-case hexadecimal digits for each byte. -/
def hex (data : Bytes) : String :=
  data.foldl (fun text b => (text.push (hexDigit (b.toNat / 16))).push (hexDigit (b.toNat % 16))) ""

end Bytes

end PeFacts
