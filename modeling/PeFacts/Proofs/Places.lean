import Mathlib.Data.List.Forall2

/-!
# Lists in the order of their places

A reader goes over the places of a table and keeps something of some of them. What it keeps enumerates
what a rule gives at the places (`Enumerates`) when nothing is left out, added or moved. There is a
lemma for a list that is picked from another one (`enumerates_filterMap`), and one for a reader that
goes from one place to the next (`Enumerates.behind`).
-/

namespace PeFacts

variable {α β : Type} {rule rule' : Nat → α → Prop}

/-- The list holds what the rule gives at the places where it gives something, in their order. -/
def Enumerates (rule : Nat → α → Prop) (found : List α) : Prop :=
  ∃ places : List Nat, places.Pairwise (· < ·) ∧ (∀ i, i ∈ places ↔ ∃ a, rule i a) ∧
    List.Forall₂ rule places found

theorem Enumerates.of_iff {found : List α} (h : Enumerates rule found)
    (same : ∀ i a, rule i a ↔ rule' i a) : Enumerates rule' found := by
  obtain rfl : rule = rule' := funext fun i => funext fun a => propext (same i a)
  exact h

/-- Numbers that lie as far from a start as their places are in increasing order. -/
theorem Enumerates.increasing {rule : Nat → Nat → Prop} {found : List Nat}
    (h : Enumerates rule found) (start : Nat) (apart : ∀ i n, rule i n → n = start + i) :
    found.Pairwise (· < ·) := by
  obtain ⟨places, sorted, -, each⟩ := h
  obtain rfl : found = places.map (start + ·) := by
    clear sorted
    induction each with
    | nil => rfl
    | cons here _ ih => rw [List.map_cons, ← ih, apart _ _ here]
  rw [List.pairwise_map]
  exact sorted.imp fun less => Nat.add_lt_add_left less start

theorem enumerates_nil (nowhere : ∀ i a, ¬ rule i a) : Enumerates rule [] :=
  ⟨[], .nil, by simpa using nowhere, .nil⟩

theorem enumerates_singleton (k : Nat) (x : α) : Enumerates (fun i a => i = k ∧ a = x) [x] :=
  ⟨[k], List.pairwise_singleton _ _, by simp, .cons ⟨rfl, rfl⟩ .nil⟩

theorem forall₂_filterMap {found : List β} {pick : β → Nat → Option α} {items : List (β × Nat)}
    (stand : ∀ p ∈ items, found[p.2]? = some p.1) :
    List.Forall₂ (fun i a => ∃ b, found[i]? = some b ∧ pick b i = some a)
      ((items.filter fun p => (pick p.1 p.2).isSome).map (·.2))
      (items.filterMap fun p => pick p.1 p.2) := by
  induction items with
  | nil => exact .nil
  | cons p items ih =>
    obtain ⟨here, rest⟩ := List.forall_mem_cons.1 stand
    rw [List.filter_cons, List.filterMap_cons]
    cases picked : pick p.1 p.2 with
    | none => exact ih rest
    | some a => exact .cons ⟨p.1, here, picked⟩ (ih rest)

/-- What is picked from a list is enumerated by the places it is picked from. -/
theorem enumerates_filterMap_zipIdx (found : List β) (pick : β → Nat → Option α) :
    Enumerates (fun i a => ∃ b, found[i]? = some b ∧ pick b i = some a)
      (found.zipIdx.filterMap fun p => pick p.1 p.2) := by
  refine ⟨(found.zipIdx.filter fun p => (pick p.1 p.2).isSome).map (·.2), ?_, fun i => ?_, ?_⟩
  · have places : found.zipIdx.map (·.2) = List.range' 0 found.length := List.zipIdx_map_snd 0 found
    exact (places ▸ List.pairwise_lt_range').sublist (List.filter_sublist.map _)
  · simp only [List.mem_map, List.mem_filter, Option.isSome_iff_exists, Prod.exists,
      List.mk_mem_zipIdx_iff_getElem?, exists_eq_right]
    constructor
    · rintro ⟨b, there, a, picked⟩
      exact ⟨a, b, there, picked⟩
    · rintro ⟨a, b, there, picked⟩
      exact ⟨b, there, a, picked⟩
  · exact forall₂_filterMap fun p hp => List.mem_zipIdx_iff_getElem?.1 hp

theorem enumerates_filterMap (found : List β) (pick : β → Option α) :
    Enumerates (fun i a => ∃ b, found[i]? = some b ∧ pick b = some a) (found.filterMap pick) := by
  have places := enumerates_filterMap_zipIdx found fun b _ => pick b
  have picked : found.filterMap pick = found.zipIdx.filterMap fun p => pick p.1 := by
    conv_lhs => rw [← List.zipIdx_map_fst 0 found, List.filterMap_map]
    rfl
  rwa [picked]

/-- What the first place gives stands in front of what the places behind it give. -/
theorem Enumerates.behind {found : List α} (h : Enumerates rule' found) {first? : Option α}
    (here : ∀ a, rule 0 a ↔ first? = some a) (behind : ∀ i a, rule (i + 1) a ↔ rule' i a) :
    Enumerates rule (first?.toList ++ found) := by
  obtain ⟨places, sorted, all, each⟩ := h
  have later : List.Forall₂ rule (places.map (· + 1)) found :=
    List.forall₂_map_left_iff.2 (each.imp fun i a => (behind i a).2)
  have above : ∀ i ∈ places.map (· + 1), 0 < i := by simp
  have sorted' : (places.map (· + 1)).Pairwise (· < ·) :=
    List.pairwise_map.2 (sorted.imp Nat.succ_lt_succ)
  have mem (i : Nat) : i + 1 ∈ places.map (· + 1) ↔ ∃ a, rule (i + 1) a := by
    simp only [List.mem_map, Nat.add_right_cancel_iff, exists_eq_right, all, behind]
  cases first? with
  | none =>
    refine ⟨_, sorted', fun i => ?_, later⟩
    cases i with
    | zero => simp [here]
    | succ i => exact mem i
  | some a =>
    refine ⟨0 :: _, List.pairwise_cons.2 ⟨above, sorted'⟩, fun i => ?_, .cons ((here a).2 rfl) later⟩
    cases i with
    | zero => exact iff_of_true List.mem_cons_self ⟨a, (here a).2 rfl⟩
    | succ i => rw [← mem i, List.mem_cons, or_iff_right i.succ_ne_zero]

end PeFacts
