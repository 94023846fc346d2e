import PeFacts.Text.Decoding

/-!
# Readings of a truncated buffer

A truncated buffer `data` is the beginning of a whole one, `data ++ rest`. What is read wholly inside
it is read from the whole buffer just the same, so a reading that may be missing never changes but
from missing to present: `Persists`.
-/

namespace PeFacts

variable {α β : Type}

/-- What the first reading finds the second one finds as well. -/
def Persists (x y : Option α) : Prop := x = none ∨ x = y

namespace Persists

theorem none (y : Option α) : Persists .none y := .inl rfl

theorem refl (x : Option α) : Persists x x := .inr rfl

theorem of_some {x y : Option α} (h : Persists x y) {a : α} (found : x = some a) : y = some a := by
  rcases h with missing | same
  · rw [missing] at found
    cases found
  · rw [← same, found]

theorem of_imp {x y : Option α} (h : ∀ a, x = some a → y = some a) : Persists x y := by
  cases x with
  | none => exact .none y
  | some a => exact .inr (h a rfl).symm

theorem bind {x y : Option α} {f g : α → Option β} (h : Persists x y)
    (hf : ∀ a, Persists (f a) (g a)) : Persists (x.bind f) (y.bind g) := by
  rcases h with rfl | rfl
  · exact .none _
  · cases x with
    | none => exact .none _
    | some a => exact hf a

theorem filter {x y : Option α} (h : Persists x y) (p : α → Bool) :
    Persists (x.filter p) (y.filter p) := by
  rcases h with rfl | rfl
  · exact .none _
  · exact .refl _

end Persists

namespace Bytes

variable {data : Bytes} (rest : Bytes)

theorem byte_append {i : Nat} (h : i < data.size) : (data ++ rest).byte i = data.byte i := by
  unfold byte
  rw [Array.getD_eq_getD_getElem?, Array.getD_eq_getD_getElem?, Array.getElem?_append_left h]

/-- A number inside the truncated buffer does not change. -/
theorem number_append {off width : Nat} (h : off + width ≤ data.size) :
    (data ++ rest).number off width = data.number off width :=
  number_congr fun i hi => byte_append rest (by omega)

theorem extract_append {start stop : Nat} (h : stop ≤ data.size) :
    (data ++ rest).extract start stop = data.extract start stop := by
  have beyond : stop - data.size = 0 := by omega
  rw [Array.extract_append, beyond, Array.extract_zero, Array.append_empty]

theorem holds_append {off size : Nat} (h : data.holds off size) :
    (data ++ rest).holds off size := by
  rw [holds_iff] at h ⊢
  rw [Array.size_append]
  omega

theorem persists_number (off width : Nat) :
    Persists (data.number? off width) ((data ++ rest).number? off width) := by
  refine .of_imp fun n found => ?_
  obtain ⟨inside, value⟩ := number?_eq_some_iff.1 found
  refine number?_eq_some_iff.2 ⟨?_, (number_append rest inside).trans value⟩
  rw [Array.size_append]
  omega

theorem persists_span (off size : Nat) :
    Persists (data.span? off size) ((data ++ rest).span? off size) := by
  refine .of_imp fun part found => ?_
  obtain ⟨inside, value⟩ := span?_eq_some_iff.1 found
  refine span?_eq_some_iff.2 ⟨?_, (extract_append rest inside).trans value⟩
  rw [Array.size_append]
  omega

/-- Letters that stand in the truncated buffer stand in the whole one. -/
theorem matchesAt_append {needle : Bytes} {off : Nat} (h : data.matchesAt needle off) :
    (data ++ rest).matchesAt needle off := by
  unfold matchesAt at h ⊢
  obtain ⟨inside, letters⟩ := Bool.and_eq_true_iff.1 h
  rw [holds_append rest inside, extract_append rest (holds_iff.1 inside), letters]
  rfl

/-- A zero byte that is found in the truncated buffer is the first one in the whole buffer. -/
theorem zeroByte?_append {off count longer nul : Nat} (inside : off + count ≤ data.size)
    (le : count ≤ longer) (found : data.zeroByte? off count = some nul) :
    (data ++ rest).zeroByte? off longer = some nul ∧ nul < data.size := by
  induction count generalizing off longer with
  | zero => cases found
  | succ count ih =>
    cases longer with
    | zero => omega
    | succ longer =>
      rw [zeroByte?] at found ⊢
      rw [byte_append rest (by omega)]
      split at found
      next zero =>
        cases found
        exact ⟨if_pos zero, by omega⟩
      next other =>
        rw [if_neg other]
        exact ih (by omega) (by omega) found

/-- A text that ends inside the truncated buffer does not change, for bounds that do not count back
from the end of the buffer. -/
theorem persists_cString (off : Nat) {maxLength : Int} (forward : 0 ≤ maxLength) :
    Persists (data.cString? off maxLength) ((data ++ rest).cString? off maxLength) := by
  refine .of_imp fun text found => ?_
  unfold cString? at found ⊢
  split at found
  · cases found
  next start =>
    obtain ⟨nul, hnul, text_eq⟩ := Option.map_eq_some_iff.1 found
    -- Both windows begin at `off`; the one in the whole buffer may be longer.
    have window (size : Nat) :
        cut size (min size (off + maxLength)) = min size (off + maxLength.toNat) := by
      unfold cut
      split <;> omega
    rw [window] at hnul
    obtain ⟨same, inside⟩ : (data ++ rest).zeroByte? off
        (min (data ++ rest).size (off + maxLength.toNat) - off) = some nul ∧ nul < data.size := by
      refine zeroByte?_append rest (by omega) ?_ hnul
      rw [Array.size_append]
      omega
    have there : ¬ (data ++ rest).size ≤ off := by
      rw [Array.size_append]
      omega
    simp only [if_neg there, window, same, Option.map_some,
      extract_append rest (Nat.le_of_lt inside), text_eq]

end Bytes

end PeFacts
