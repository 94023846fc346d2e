import Mathlib
import PeFacts.Checksum

/-!
# What a checksum adds up to

A sum whose carries are added back leaves the remainder modulo 65535 that the exact total leaves, and
it is zero only where the total is (`Carries`). Folding keeps both, so the checksum is a function of
the exact total and of the length: `calculate_eq`.
-/

namespace PeFacts.Checksum

open scoped BigOperators

/-- The exact sum of the 32-bit words, without the word `skip`. -/
def total (data : Bytes) (skip : Int) : Nat :=
  ∑ i ∈ Finset.range ((data.size + 3) / 4), if (i : Int) = skip then 0 else data.number (4 * i) 4

/-- The number from 1 to 65535 that leaves the remainder of a total; zero only for zero. -/
def digest (total : Nat) : Nat := if total = 0 then 0 else (total - 1) % 65535 + 1

/-- The sum takes 32 bits and stands for the total. -/
structure Carries (sum total : Nat) : Prop where
  narrow : sum ≤ 0xFFFFFFFF
  remainder : sum % 65535 = total % 65535
  zero : sum = 0 ↔ total = 0

variable {sum total : Nat}

/-- One carry is enough: a sum and a word take 33 bits. -/
theorem Carries.addWord (h : Carries sum total) {word : Nat} (narrow : word ≤ 0xFFFFFFFF) :
    Carries (addWord sum word) (total + word) := by
  obtain ⟨small, remainder, zero⟩ := h
  unfold Checksum.addWord
  dsimp only
  split <;> constructor <;> omega

theorem Carries.digest_eq (h : Carries sum total) : digest sum = digest total := by
  obtain ⟨-, remainder, zero⟩ := h
  unfold digest
  split <;> split <;> omega

theorem digest_of_remainder {k r : Nat} (pos : 0 < r) (le : r ≤ 65535) :
    digest (65535 * k + r) = r := by
  unfold digest
  rw [if_neg (by omega)]
  omega

/-- Folding a sum of 32 bits leaves its digest. -/
theorem fold_eq_digest (narrow : sum ≤ 0xFFFFFFFF) : fold sum = digest sum := by
  obtain ⟨high, low, rfl, small⟩ : ∃ high low, sum = 65536 * high + low ∧ low < 65536 :=
    ⟨sum / 65536, sum % 65536, by omega, by omega⟩
  have once : (65536 * high + low) % 0x10000 + (65536 * high + low) / 0x10000 = high + low := by
    omega
  unfold fold
  simp only [once]
  by_cases zero : high + low = 0
  · obtain ⟨rfl, rfl⟩ := Nat.add_eq_zero_iff.1 zero
    rfl
  by_cases carry : high + low < 0x10000
  · have folded : (high + low + (high + low) / 0x10000) % 0x10000 = high + low := by omega
    have same : 65536 * high + low = 65535 * high + (high + low) := by omega
    rw [folded, same, digest_of_remainder (by omega) (by omega)]
  · have folded : (high + low + (high + low) / 0x10000) % 0x10000 = high + low - 65535 := by omega
    have same : 65536 * high + low = 65535 * (high + 1) + (high + low - 65535) := by omega
    rw [folded, same, digest_of_remainder (by omega) (by omega)]

theorem digest_le (total : Nat) : digest total ≤ 65535 := by
  unfold digest
  split <;> omega

/-- Totals that follow one another have different digests. -/
theorem digest_succ_ne (total : Nat) : digest (total + 1) ≠ digest total := by
  unfold digest
  split <;> split <;> omega

theorem number_four_le (data : Bytes) (off : Nat) : data.number off 4 ≤ 0xFFFFFFFF :=
  Nat.le_of_lt_succ (data.number_lt off 4)

/-- The sum that the first `n` words leave, without the word `skip`. -/
def sumAfter (data : Bytes) (skip : Int) (n : Nat) : Nat :=
  (List.range n).foldl
    (fun sum (i : Nat) => if (i : Int) = skip then sum else addWord sum (data.number (4 * i) 4)) 0

theorem sumAfter_succ (data : Bytes) (skip : Int) (n : Nat) :
    sumAfter data skip (n + 1) = if (n : Int) = skip then sumAfter data skip n
      else addWord (sumAfter data skip n) (data.number (4 * n) 4) := by
  unfold sumAfter
  rw [List.range_succ, List.foldl_append, List.foldl_cons, List.foldl_nil]

/-- After each word the sum stands for the exact one. -/
theorem carries_sumAfter (data : Bytes) (skip : Int) (n : Nat) :
    Carries (sumAfter data skip n)
      (∑ i ∈ Finset.range n, if (i : Int) = skip then 0 else data.number (4 * i) 4) := by
  induction n with
  | zero => exact ⟨Nat.zero_le _, rfl, Iff.rfl⟩
  | succ n ih =>
    rw [sumAfter_succ, Finset.sum_range_succ]
    split
    · exact ih
    · exact ih.addWord (number_four_le data _)

theorem carries_wordSum (data : Bytes) (skip : Int) :
    Carries (wordSum data skip) (Checksum.total data skip) :=
  carries_sumAfter data skip _

/-- The checksum is the digest of the exact total, and the length is added. -/
theorem calculate_eq (data : Bytes) (offset : Int) :
    calculate data offset =
      (digest (Checksum.total data (offset / 4)) + data.size) % 0x100000000 := by
  have carries := carries_wordSum data (offset / 4)
  rw [calculate, fold_eq_digest carries.narrow, carries.digest_eq]

end PeFacts.Checksum
