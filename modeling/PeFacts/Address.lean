/-!
# Address arithmetic

Addresses are 32-bit numbers whose sums must not wrap. A sum that leaves the range, or that has an
undefined part, is undefined.
-/

namespace PeFacts.Address

/-- The greatest 32-bit number. -/
def max32 : Nat := 0xFFFFFFFF

/-- The sum of address parts: undefined when a part is undefined or below zero, or when the sum
exceeds the limit. -/
def checkedSum (parts : List (Option Int)) (limit : Int := max32) : Option Int :=
  if parts.all fun p => p.any (0 ≤ ·) then
    let total := parts.foldl (fun sum p => sum + p.getD 0) 0
    if total > limit then none else some total
  else none

/-- The sum of two 32-bit numbers, unless it wraps. -/
def add32? (a b : Nat) : Option Nat := if a + b ≤ max32 then some (a + b) else none

/-- The least multiple of four that is not below `x`. -/
def alignUp (x : Int) : Int := (x + 3) / 4 * 4

/-- The least multiple of four that is not below the position `n`. -/
def align4 (n : Nat) : Nat := (n + 3) / 4 * 4

theorem add32?_eq_some_iff {a b n : Nat} : add32? a b = some n ↔ a + b ≤ max32 ∧ a + b = n := by
  simp [add32?]

theorem add32?_eq_none_iff {a b : Nat} : add32? a b = none ↔ max32 < a + b := by
  simp [add32?]

/-- On positions the two alignments agree. -/
theorem alignUp_natCast (n : Nat) : alignUp n = align4 n := by
  simp [alignUp, align4]

end PeFacts.Address
