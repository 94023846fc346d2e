import PeFacts.Guarded
import PeFacts.Text.Decoding

/-!
# Guarded reading of text

A text that a zero byte ends is cut out of the buffer, which always works. A text that a zero unit
ends is looked at byte by byte, and the count before a counted text is unpacked.
-/

namespace PeFacts.Guarded

/-- The ASCII text at a position that a zero byte ends. -/
def cString? (data : Bytes) (off? : Option Nat) (maxLength : Int) : Guarded (Option String) :=
  return off?.bind fun off => data.cString? off maxLength

/-- The first unit from `i` on that is zero and ends before `stop`, by its position. -/
def zeroUnit? (data : Bytes) (stop : Int) (i : Nat) : Guarded (Option Nat) := do
  if (i : Int) + 1 < stop then
    if (← byte data i) = 0 then
      if (← byte data (i + 1)) = 0 then return some i
    zeroUnit? data stop (i + 2)
  else return none
termination_by (stop - i).toNat

/-- The UTF-16 text at a position that a zero unit ends, with the number of bytes it takes. -/
def utf16ZString? (data : Bytes) (off? : Option Nat) (maxChars : Int) (limit? : Option Int) :
    Guarded (Option (String × Nat)) :=
  match off? with
  | none => return none
  | some off => do
    if data.size ≤ off then return none
    let stop : Int := min (limit?.elim (data.size : Int) (min · data.size)) (off + maxChars * 2)
    let nul? ← zeroUnit? data stop off
    return nul?.map fun nul => (utf16Text (data.extract off nul), nul + 2 - off)

/-- The UTF-16 text whose unit count stands at a position and is at most `maxChars`. -/
def utf16Counted? (data : Bytes) (off? : Option Nat) (maxChars : Int) :
    Guarded (Option String) := do
  match ← numberAt? data off? 2 with
  | none => return none
  | some count =>
    if (count : Int) > maxChars then return none
    let off ← given off?
    return (data.span? (off + 2) (count * 2)).map utf16Text

/-- A unit is zero when its two bytes are. -/
theorem number_two_eq_zero_iff (data : Bytes) (off : Nat) :
    data.number off 2 = 0 ↔ data.byte off = 0 ∧ data.byte (off + 1) = 0 := by
  simp only [Bytes.number]
  omega

/-- Every byte that is looked at stands before `stop`, so in the buffer. -/
theorem zeroUnit?_eq {data : Bytes} {stop : Int} (h : stop ≤ data.size) (i : Nat) :
    zeroUnit? data stop i = pure (data.zeroUnit? i ((stop - i).toNat / 2)) := by
  generalize hc : (stop - i).toNat / 2 = count
  induction count generalizing i with
  | zero =>
    have past : ¬ (i : Int) + 1 < stop := by omega
    rw [zeroUnit?, if_neg past]
    rfl
  | succ count ih =>
    have inside : (i : Int) + 1 < stop := by omega
    have first : byte data i = pure (data.byte i) := byte_eq (by omega)
    have second : byte data (i + 1) = pure (data.byte (i + 1)) := byte_eq (by omega)
    rw [zeroUnit?, if_pos inside, Bytes.zeroUnit?]
    simp only [first, second, pure_bind, number_two_eq_zero_iff, ih (i + 2) (by omega)]
    by_cases hz : data.byte i = 0 <;> by_cases hz' : data.byte (i + 1) = 0 <;> simp [hz, hz']

theorem utf16ZString?_eq (data : Bytes) (off? : Option Nat) (maxChars : Int) (limit? : Option Int) :
    utf16ZString? data off? maxChars limit? =
      pure (off?.bind fun off => data.utf16ZString? off maxChars limit?) := by
  cases off? with
  | none => rfl
  | some off =>
    simp only [utf16ZString?, Option.bind_some, Bytes.utf16ZString?]
    generalize hs : min (limit?.elim (data.size : Int) (min · data.size)) (off + maxChars * 2) = stop
    have bound : stop ≤ data.size := by
      have : limit?.elim (data.size : Int) (min · (data.size : Int)) ≤ data.size := by
        cases limit? with
        | none => exact Int.le_refl _
        | some limit => exact Int.min_le_right _ _
      omega
    by_cases outside : data.size ≤ off
    · -- Past the end of the buffer there is no unit to look at.
      have none_left : (stop - off).toNat / 2 = 0 := by omega
      rw [if_pos outside, none_left]
      rfl
    · simp [outside, zeroUnit?_eq bound]

theorem utf16Counted?_eq (data : Bytes) (off? : Option Nat) (maxChars : Int) :
    utf16Counted? data off? maxChars =
      pure (off?.bind fun off => data.utf16Counted? off maxChars) := by
  cases off? with
  | none => rfl
  | some off =>
    simp only [utf16Counted?, Bytes.utf16Counted?, Bytes.u16?, numberAt?_eq, pure_bind,
      Option.bind_some, given_some]
    cases data.number? off 2 with
    | none => rfl
    | some count => by_cases h : (count : Int) > maxChars <;> simp [h]

end PeFacts.Guarded
