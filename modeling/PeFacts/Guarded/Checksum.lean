import PeFacts.Checksum
import PeFacts.Guarded

/-!
# Guarded calculation of the checksum

The buffer is filled up to whole words before it is cut into them: `calculateChecksum_eq`.
-/

namespace PeFacts.Guarded

open Checksum

/-- The buffer with zeros up to a whole number of words. -/
def padded (data : Bytes) : Bytes := data ++ Array.replicate ((4 - data.size % 4) % 4) 0

/-- Adds `left` words, the first of which is the one at `i`, without the word `skip`. -/
def wordSumFrom (data : Bytes) (skip : Int) (i : Nat) : (left : Nat) → (sum : Nat) → Guarded Nat
  | 0, sum => return sum
  | left + 1, sum => do
    let word ← unpack data (4 * i) 4
    wordSumFrom data skip (i + 1) left (if (i : Int) = skip then sum else addWord sum word)

/-- The checksum of an image whose stored checksum stands at `offset`. -/
def calculateChecksum (data : Bytes) (offset : Int) : Guarded Nat := do
  let words := padded data
  if words.size % 4 ≠ 0 then throw .words
  let sum ← wordSumFrom words (offset / 4) 0 (words.size / 4) 0
  return (fold sum + data.size) % 0x100000000

variable (data : Bytes)

theorem size_padded : (padded data).size = 4 * ((data.size + 3) / 4) := by
  simp only [padded, Array.size_append, Array.size_replicate]
  omega

theorem byte_padded (i : Nat) : (padded data).byte i = data.byte i := by
  unfold padded Bytes.byte
  rw [Array.getD_eq_getD_getElem?, Array.getD_eq_getD_getElem?, Array.getElem?_append]
  split
  · rfl
  next past =>
    have nothing_there : data[i]? = none := Array.getElem?_eq_none (by omega)
    rw [nothing_there, Array.getElem?_replicate]
    split <;> rfl

theorem number_padded (off width : Nat) : (padded data).number off width = data.number off width :=
  Bytes.number_congr fun i _ => byte_padded data (off + i)

theorem wordSumFrom_eq (skip : Int) {i left : Nat} (room : 4 * (i + left) ≤ data.size) (sum : Nat) :
    wordSumFrom data skip i left sum = pure ((List.range' i left).foldl (fun sum (i : Nat) =>
      if (i : Int) = skip then sum else addWord sum (data.number (4 * i) 4)) sum) := by
  induction left generalizing i sum with
  | zero => rfl
  | succ left ih =>
    rw [wordSumFrom, unpack_eq (by omega), pure_bind, ih (by omega)]
    rfl

/-- Calculating the checksum leaves the domain of no operation. -/
theorem calculateChecksum_eq (offset : Int) :
    calculateChecksum data offset = pure (calculate data offset) := by
  have whole : ¬ (padded data).size % 4 ≠ 0 := by rw [size_padded]; omega
  have words : (padded data).size / 4 = (data.size + 3) / 4 := by rw [size_padded]; omega
  have room : 4 * (0 + (padded data).size / 4) ≤ (padded data).size := by omega
  simp only [calculateChecksum, if_neg whole]
  rw [wordSumFrom_eq _ _ room, words, ← List.range_eq_range']
  simp only [pure_bind, number_padded]
  rfl

end PeFacts.Guarded
