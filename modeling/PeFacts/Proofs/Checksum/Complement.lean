import Mathlib
import PeFacts.Guarded.Checksum
import PeFacts.Proofs.Checksum.Sum

/-!
# The checksum as a ones' complement sum

A word of 32 bits is two words of 16 bits, and a high one of them counts 65536 times, which leaves
what counting it once leaves (`exists_total_eq`). So the sum of the 32-bit words has the digest of
the sum of the 16-bit words, and the checksum is read off those. Along the loop the sum keeps to 32
bits (`comesBy`): a carry that is added back leaves no other one (`addWord_eq_carryAll`).
-/

namespace PeFacts.Checksum

open Guarded

/-- The buffer filled up with zeros to whole words, with zeros in the word that has the byte at
`offset`. -/
def cleared (data : Bytes) (offset : Nat) : Bytes :=
  (padded data).mapIdx fun i b =>
    if 4 * (offset / 4) ≤ i ∧ i < 4 * (offset / 4) + 4 then 0 else b

/-- The sum of the 16-bit words of a buffer. -/
def halfwordTotal (data : Bytes) : Nat :=
  ∑ i ∈ Finset.range (data.size / 2), data.number (2 * i) 2

/-- Carries out of 32 bits are added back until there is none. -/
def carryAll (n : Nat) : Nat :=
  if n ≤ 0xFFFFFFFF then n else carryAll (n % 0x100000000 + n / 0x100000000)
termination_by n

/-! ## Words of 16 bits -/

section Halves

variable (data : Bytes)

theorem size_cleared (offset : Nat) : (cleared data offset).size = 4 * ((data.size + 3) / 4) := by
  rw [cleared, Array.size_mapIdx, size_padded]

theorem byte_cleared (offset i : Nat) :
    (cleared data offset).byte i =
      if 4 * (offset / 4) ≤ i ∧ i < 4 * (offset / 4) + 4 then 0 else data.byte i := by
  rw [← byte_padded data i]
  unfold cleared Bytes.byte
  rw [Array.getD_eq_getD_getElem?, Array.getD_eq_getD_getElem?, Array.getElem?_mapIdx]
  cases (padded data)[i]? with
  | none => simp
  | some b =>
    simp only [Option.map_some, Option.getD_some]
    split <;> rfl

/-- The word that is left out is the one with zeros. -/
theorem number_cleared (offset i : Nat) :
    (cleared data offset).number (4 * i) 4 =
      if (i : Int) = (offset : Int) / 4 then 0 else data.number (4 * i) 4 := by
  split
  next left_out =>
    have zero (k : Nat) (hk : k < 4) : (cleared data offset).byte (4 * i + k) = 0 := by
      rw [byte_cleared, if_pos (by omega)]
    simp only [Bytes.number, Nat.add_assoc, Nat.reduceAdd, zero 1 (by decide), zero 2 (by decide),
      zero 3 (by decide)]
    exact zero 0 (by decide)
  next other =>
    refine Bytes.number_congr fun k hk => ?_
    rw [byte_cleared, if_neg (by omega)]

/-- A 32-bit word is two 16-bit words, the low one first. -/
theorem number_four_eq (i : Nat) :
    data.number (4 * i) 4 =
      data.number (2 * (2 * i)) 2 + 65536 * data.number (2 * (2 * i + 1)) 2 := by
  have low : 2 * (2 * i) = 4 * i := by omega
  have high : 2 * (2 * i + 1) = 4 * i + 2 := by omega
  rw [low, high]
  simp only [Bytes.number, Nat.add_assoc, Nat.reduceAdd]
  omega

/-- The 32-bit words add up to the 16-bit words and 65535 times some of these. -/
theorem exists_sum_eq (n : Nat) :
    ∃ high ≤ ∑ i ∈ Finset.range (2 * n), data.number (2 * i) 2,
      ∑ i ∈ Finset.range n, data.number (4 * i) 4 =
        ∑ i ∈ Finset.range (2 * n), data.number (2 * i) 2 + 65535 * high := by
  induction n with
  | zero => exact ⟨0, Nat.zero_le _, rfl⟩
  | succ n ih =>
    obtain ⟨high, le, same⟩ := ih
    have word := number_four_eq data n
    have halves : ∑ i ∈ Finset.range (2 * (n + 1)), data.number (2 * i) 2 =
        ∑ i ∈ Finset.range (2 * n), data.number (2 * i) 2 + data.number (2 * (2 * n)) 2 +
          data.number (2 * (2 * n + 1)) 2 := by
      rw [show 2 * (n + 1) = 2 * n + 1 + 1 by omega, Finset.sum_range_succ, Finset.sum_range_succ]
    refine ⟨high + data.number (2 * (2 * n + 1)) 2, ?_, ?_⟩
    · rw [halves]
      omega
    · rw [halves, Finset.sum_range_succ]
      omega

end Halves

theorem exists_total_eq (data : Bytes) (offset : Nat) :
    ∃ high ≤ halfwordTotal (cleared data offset),
      total data ((offset : Int) / 4) = halfwordTotal (cleared data offset) + 65535 * high := by
  have halves : (cleared data offset).size / 2 = 2 * ((data.size + 3) / 4) := by
    rw [size_cleared]
    omega
  have words : total data ((offset : Int) / 4) =
      ∑ i ∈ Finset.range ((data.size + 3) / 4), (cleared data offset).number (4 * i) 4 :=
    Finset.sum_congr rfl fun i _ => (number_cleared data offset i).symm
  rw [halfwordTotal, halves, words]
  exact exists_sum_eq _ _

/-- What is counted 65535 times makes no difference beside what is counted once. -/
theorem digest_add_mul {low high : Nat} (le : high ≤ low) :
    digest (low + 65535 * high) = digest low := by
  unfold digest
  by_cases zero : low = 0
  · rw [if_pos zero, if_pos (by omega)]
  · rw [if_neg zero, if_neg (by omega)]
    omega

theorem digest_total (data : Bytes) (offset : Nat) :
    digest (total data ((offset : Int) / 4)) = digest (halfwordTotal (cleared data offset)) := by
  obtain ⟨high, le, same⟩ := exists_total_eq data offset
  rw [same, digest_add_mul le]

/-! ## Rounds -/

theorem carryAll_of_le {n : Nat} (narrow : n ≤ 0xFFFFFFFF) : carryAll n = n := by
  rw [carryAll, if_pos narrow]

/-- One carry is enough: a sum and a word take 33 bits. -/
theorem addWord_eq_carryAll {sum word : Nat} (h : sum ≤ 0xFFFFFFFF) (h' : word ≤ 0xFFFFFFFF) :
    addWord sum word = carryAll (sum + word) := by
  unfold addWord
  dsimp only
  split
  next carry =>
    rw [carryAll, if_neg (by omega), carryAll_of_le (by omega)]
  next none => rw [carryAll_of_le (by omega)]

/-- After `n` rounds the loop over the words has the sum `sum`, and with this it goes on. -/
structure ComesBy (data : Bytes) (skip : Int) (n sum : Nat) : Prop where
  begun : wordSumFrom (padded data) skip 0 n 0 = pure sum
  goesOn : wordSumFrom (padded data) skip 0 ((padded data).size / 4) 0 =
    wordSumFrom (padded data) skip n ((padded data).size / 4 - n) sum

/-- A loop may be cut between two rounds. -/
theorem wordSumFrom_add (data : Bytes) (skip : Int) (i n m sum : Nat) :
    wordSumFrom data skip i (n + m) sum =
      wordSumFrom data skip i n sum >>= wordSumFrom data skip (i + n) m := by
  induction n generalizing i sum with
  | zero =>
    rw [Nat.zero_add]
    rfl
  | succ n ih =>
    rw [Nat.succ_add, wordSumFrom, wordSumFrom, bind_assoc]
    refine bind_congr fun word => ?_
    rw [ih, Nat.succ_add]
    rfl

theorem comesBy {data : Bytes} (skip : Int) {n : Nat} (le : n ≤ (data.size + 3) / 4) :
    ComesBy data skip n (sumAfter data skip n) := by
  have size := size_padded data
  have begun : wordSumFrom (padded data) skip 0 n 0 = pure (sumAfter data skip n) := by
    rw [wordSumFrom_eq _ _ (by omega), ← List.range_eq_range']
    simp only [number_padded]
    rfl
  refine ⟨begun, ?_⟩
  have cut : (padded data).size / 4 = n + ((padded data).size / 4 - n) := by omega
  have whole := wordSumFrom_add (padded data) skip 0 n ((padded data).size / 4 - n) 0
  rw [← cut, begun, pure_bind, Nat.zero_add] at whole
  exact whole

/-- The checksum is the ones' complement sum of the 16-bit words of the buffer, filled up with zeros
and with zeros in the word that has the byte at `offset`, and the length is added. After each round
the sum takes no more than 32 bits; the next round leaves it or adds a word, and adding one carry back
is as good as adding back all. -/
theorem checksum_is_ones_complement_sum (data : Bytes) (offset : Nat) :
    calculateChecksum data offset =
        pure ((digest (halfwordTotal (cleared data offset)) + data.size) % 0x100000000) ∧
      ∃ sums : Nat → Nat, (∀ n ≤ (data.size + 3) / 4,
          ComesBy data ((offset : Int) / 4) n (sums n) ∧ sums n ≤ 0xFFFFFFFF) ∧
        ∀ n < (data.size + 3) / 4, sums (n + 1) =
          if n = offset / 4 then sums n else carryAll (sums n + data.number (4 * n) 4) := by
  constructor
  · rw [calculateChecksum_eq, calculate_eq, digest_total]
  · refine ⟨sumAfter data ((offset : Int) / 4), fun n le => ⟨comesBy _ le, ?_⟩, fun n _ => ?_⟩
    · exact (carries_sumAfter data _ n).narrow
    · have same : (n : Int) = (offset : Int) / 4 ↔ n = offset / 4 := by omega
      rw [sumAfter_succ, addWord_eq_carryAll (carries_sumAfter data _ n).narrow
        (number_four_le data _)]
      simp only [same]

end PeFacts.Checksum
