import Mathlib.Data.Set.Card
import PeFacts.Proofs.Import

/-!
# Limits of the import directory

A table of the import directory goes from one entry to the next until an entry of zero bytes or the
end of the buffer. `AtLimit` says that a table has as many entries as the limit, and in which of two
ways: another entry follows, or the table ends right there. The reader does not look at what stands
behind the limit, so in the second case a table that is read as a whole is reported as one that is
too long: `limits_are_reported_when_reached`.

Each reader gets one lemma about how often it notes a problem of this kind, from the thunks
(`count_thunksFrom`) over the descriptor (`count_descriptor`) to the table (`count_descriptorsFrom`).
-/

namespace PeFacts

/-- The problem says that a table of the import directory is too long. -/
def Problem.ofImportLimit : Problem → Bool
  | tooManyDlls .. | tooManyFunctions .. => true
  | _ => false

namespace Reading

variable {α : Type} {p : Problem}

theorem count_report (r : Reading α) (q : Problem) :
    (r.report q).problems.count p = r.problems.count p + if p = q then 1 else 0 := by
  by_cases same : p = q
  · rw [if_pos same, report, same, Array.count_push_self]
  · rw [if_neg same, report, Array.count_push_of_ne (Ne.symm same), Nat.add_zero]

/-- Any other problem makes no difference. -/
theorem count_report_other (ofLimit : p.ofImportLimit) (r : Reading α) {q : Problem}
    (other : q.ofImportLimit = false) : (r.report q).problems.count p = r.problems.count p := by
  have differ : p ≠ q := by
    rintro rfl
    rw [ofLimit] at other
    cases other
  rw [count_report, if_neg differ, Nat.add_zero]

end Reading

namespace ImportTable

/-- `n` entries stand one after the other from `off` on. -/
def Row (entry : Nat → Prop) (width off n : Nat) : Prop := ∀ k < n, entry (off + width * k)

/-- The entries from `off` on come up to the limit `n`. -/
inductive AtLimit (entry : Nat → Prop) (width off n : Nat) : Prop
  | past (row : Row entry width off (n + 1))
  | exactly (row : Row entry width off n) (ended : ¬ entry (off + width * n))

open scoped Classical in
/-- The indices below `n` that the row reaches, of entries whose position has the property. -/
noncomputable def reached (entry : Nat → Prop) (width off n : Nat) (P : Nat → Prop) : Finset Nat :=
  {k ∈ Finset.range n | Row entry width off (k + 1) ∧ P (off + width * k)}

section Row

variable {entry : Nat → Prop} {width off n : Nat}

theorem row_zero : Row entry width off 0 := nofun

/-- The entries after the first one are the entries from the second one on. -/
theorem place_succ (off width k : Nat) : off + width * (k + 1) = off + width + width * k := by
  rw [Nat.mul_succ, Nat.add_assoc, Nat.add_comm width]

theorem row_succ : Row entry width off (n + 1) ↔ entry off ∧ Row entry width (off + width) n := by
  constructor
  · intro row
    exact ⟨row 0 n.succ_pos, fun k hk => place_succ off width k ▸ row (k + 1) (Nat.succ_lt_succ hk)⟩
  · rintro ⟨first, later⟩ k hk
    cases k with
    | zero => exact first
    | succ k => exact place_succ off width k ▸ later k (Nat.lt_of_succ_lt_succ hk)

theorem atLimit_iff : AtLimit entry width off n ↔ Row entry width off n := by
  constructor
  · rintro (row | ⟨row, -⟩)
    · exact fun k hk => row k (Nat.lt_succ_of_lt hk)
    · exact row
  · intro row
    by_cases next : entry (off + width * n)
    · refine .past fun k hk => ?_
      rcases Nat.lt_succ_iff_lt_or_eq.1 hk with before | rfl
      · exact row k before
      · exact next
    · exact .exactly row next

theorem mem_reached {P : Nat → Prop} {k : Nat} :
    k ∈ reached entry width off n P ↔ k < n ∧ Row entry width off (k + 1) ∧ P (off + width * k) := by
  simp only [reached, Finset.mem_filter, Finset.mem_range]

theorem reached_of_ended (ended : ¬ entry off) (P : Nat → Prop) : reached entry width off n P = ∅ :=
  Finset.eq_empty_of_forall_notMem fun _ there =>
    ended (row_succ.1 (mem_reached.1 there).2.1).1

open scoped Classical in
theorem card_reached_succ (here : entry off) (P : Nat → Prop) :
    (reached entry width off (n + 1) P).card =
      (reached entry width (off + width) n P).card + if P off then 1 else 0 := by
  simp only [reached, Finset.card_filter, Finset.sum_range_succ']
  congr 1
  · refine Finset.sum_congr rfl fun k _ => ?_
    rw [row_succ, place_succ]
    simp only [here, true_and]
  · simp only [row_succ, here, row_zero, true_and, Nat.mul_zero, Nat.add_zero]

end Row

namespace Source

variable (src : Source)

/-- A descriptor stands at the position: its bytes are readable, and one of them is not zero. -/
def HasDescriptor (off : Nat) : Prop :=
  ∃ bytes, src.data.span? off descriptorSize = some bytes ∧ bytes.all (· == 0) = false

/-- A thunk stands at the position: it is readable and not zero. -/
def HasThunk (off : Nat) : Prop :=
  ∃ thunk, src.data.number? off src.layout.thunkSize = some thunk ∧ thunk ≠ 0

/-- The thunks at the address come up to the limit. -/
def FullThunks (rva : Nat) : Prop :=
  ∃ start, src.sections.offset? rva = some start ∧
    AtLimit src.HasThunk src.layout.thunkSize start src.limits.maxImportFunctions.toNat

/-- The descriptor at the position names the DLL, and its thunks come up to the limit. -/
structure FullDll (off : Nat) (dll : String) : Prop where
  named : src.text? (src.data.number (off + 12) 4) = some dll
  thunks : src.FullThunks (if src.data.number off 4 = 0 then src.data.number (off + 16) 4
    else src.data.number off 4)

/-- The descriptor with this index is read, names the DLL, and its thunks come up to the limit. -/
structure FullDllAt (base : Nat) (dll : String) (index : Nat) : Prop where
  allowed : (index : Int) < src.limits.maxImportDlls
  row : Row src.HasDescriptor descriptorSize base (index + 1)
  full : src.FullDll (base + descriptorSize * index) dll

/-! ## What a reader notes -/

variable {src} {p : Problem}

variable (ofLimit : p.ofImportLimit)

include ofLimit

open scoped Classical

theorem count_thunksFrom (dll : String) (start off left : Nat) (r : Reading ImportedFunction) :
    (src.thunksFrom dll start off left r).problems.count p = r.problems.count p +
      if p = .tooManyFunctions dll src.limits.maxImportFunctions ∧
        Row src.HasThunk src.layout.thunkSize off left then 1 else 0 := by
  induction left generalizing off r with
  | zero =>
    rw [thunksFrom, Reading.count_report]
    simp only [row_zero, and_true]
  | succ left ih =>
    rw [thunksFrom, row_succ]
    split
    next missing =>
      have none : ¬ src.HasThunk off := by simp [HasThunk, missing]
      rw [Reading.count_report_other ofLimit r rfl, if_neg (none ·.2.1), Nat.add_zero]
    next zero =>
      have none : ¬ src.HasThunk off := by simp [HasThunk, zero]
      rw [if_neg (none ·.2.1), Nat.add_zero]
    next thunk used there =>
      have here : src.HasThunk off := ⟨thunk, there, used⟩
      rw [ih]
      simp only [here, true_and]
      cases src.function? thunk with
      | none => rw [Reading.count_report_other ofLimit r rfl]
      | some f => rfl

/-- The problem says that the thunks of the descriptor at the position come up to the limit. -/
def Overfull (src : Source) (off : Nat) (p : Problem) : Prop :=
  ∃ dll, p = .tooManyFunctions dll src.limits.maxImportFunctions ∧ src.FullDll off dll

variable (forward : 0 ≤ src.limits.maxImportFunctions)

include forward

theorem count_functions (dll : String) (rva : Nat) :
    (src.functions dll rva).problems.count p =
      if p = .tooManyFunctions dll src.limits.maxImportFunctions ∧ src.FullThunks rva
        then 1 else 0 := by
  unfold functions
  split
  next missing =>
    have none : ¬ src.FullThunks rva := by simp [FullThunks, missing]
    rw [if_neg (none ·.2)]
    exact Reading.count_report_other ofLimit {} rfl
  next start located =>
    have full : src.FullThunks rva ↔
        Row src.HasThunk src.layout.thunkSize start src.limits.maxImportFunctions.toNat := by
      simp [FullThunks, located, atLimit_iff]
    rw [if_neg (Int.not_lt.2 forward), count_thunksFrom ofLimit, full]
    exact Nat.zero_add _

theorem count_descriptor (off : Nat) (r : Reading ImportedDll) :
    (src.descriptor off r).problems.count p =
      r.problems.count p + if src.Overfull off p then 1 else 0 := by
  unfold descriptor
  dsimp only
  split
  next unreadable =>
    have none : ¬ src.Overfull off p := by
      rintro ⟨dll, -, full⟩
      rw [full.named] at unreadable
      cases unreadable
    rw [Reading.count_report_other ofLimit r rfl, if_neg none, Nat.add_zero]
  next dll named =>
    rw [Array.count_append, count_functions ofLimit forward]
    congr 2
    refine propext ⟨fun ⟨same, full⟩ => ⟨dll, same, named, full⟩, ?_⟩
    rintro ⟨dll', same, named', full⟩
    rw [named] at named'
    obtain rfl := Option.some.inj named'
    exact ⟨same, full⟩

/-- A descriptor counts when it is read, that is, when the row reaches it. -/
theorem count_descriptorsFrom (off left : Nat) (r : Reading ImportedDll) :
    (src.descriptorsFrom off left r).problems.count p = r.problems.count p +
      (reached src.HasDescriptor descriptorSize off left (src.Overfull · p)).card +
      if p = .tooManyDlls src.limits.maxImportDlls ∧
        Row src.HasDescriptor descriptorSize off left then 1 else 0 := by
  induction left generalizing off r with
  | zero =>
    rw [descriptorsFrom, Reading.count_report]
    simp only [row_zero, and_true, reached, Finset.range_zero, Finset.filter_empty,
      Finset.card_empty, Nat.add_zero]
  | succ left ih =>
    rw [descriptorsFrom, row_succ]
    split
    next missing =>
      have ended : ¬ src.HasDescriptor off := by simp [HasDescriptor, missing]
      rw [Reading.count_report_other ofLimit r rfl, reached_of_ended ended, if_neg (ended ·.2.1)]
      rfl
    next bytes there =>
      split
      next zero =>
        have ended : ¬ src.HasDescriptor off := by
          simp only [HasDescriptor, there, Option.some.injEq, exists_eq_left', zero,
            Bool.true_eq_false, not_false_eq_true]
        rw [reached_of_ended ended, if_neg (ended ·.2.1)]
        rfl
      next used =>
        have here : src.HasDescriptor off := ⟨bytes, there, Bool.eq_false_iff.2 used⟩
        rw [ih, count_descriptor ofLimit forward, card_reached_succ here]
        simp only [here, true_and]
        omega

end Source

/-- The problems about the limits are the ones for tables that come up to them. -/
structure ReportsLimits (src : Source) (base : Nat) (problems : List Problem) : Prop where
  dlls : .tooManyDlls src.limits.maxImportDlls ∈ problems ↔
    AtLimit src.HasDescriptor descriptorSize base src.limits.maxImportDlls.toNat
  functions : ∀ dll, problems.count (.tooManyFunctions dll src.limits.maxImportFunctions) =
    {index | src.FullDllAt base dll index}.ncard

/-- A directory that can be mapped is reported to have too many DLLs just when its descriptors come up
to the limit, and a DLL to have too many functions once for each of its descriptors whose thunks do. -/
theorem limits_are_reported_when_reached (src : Source) (rva base : Nat)
    (located : src.sections.offset? rva = some base) (dlls : 0 ≤ src.limits.maxImportDlls)
    (functions : 0 ≤ src.limits.maxImportFunctions) :
    ReportsLimits src base (read src rva).2 ∧
      Guarded.Yields src.sections (Guarded.imports src rva) (read src rva) := by
  refine ⟨?_, Guarded.yields_imports src rva⟩
  have noted : (read src rva).2 =
      (src.descriptorsFrom base src.limits.maxImportDlls.toNat {}).problems.toList := by
    rw [read, located]
    dsimp only
    rw [if_neg (Int.not_lt.2 dlls)]
  constructor
  · have other : reached src.HasDescriptor descriptorSize base src.limits.maxImportDlls.toNat
        (src.Overfull · (.tooManyDlls src.limits.maxImportDlls)) = ∅ :=
      Finset.eq_empty_of_forall_notMem fun _ there => by
        obtain ⟨-, -, _, same, -⟩ := mem_reached.1 there
        cases same
    rw [noted, atLimit_iff, ← List.count_pos_iff, Array.count_toList,
      Source.count_descriptorsFrom rfl functions, other, Finset.card_empty]
    by_cases row : Row src.HasDescriptor descriptorSize base src.limits.maxImportDlls.toNat <;>
      simp [row]
  · intro dll
    have same : {index | src.FullDllAt base dll index} =
        reached src.HasDescriptor descriptorSize base src.limits.maxImportDlls.toNat
          (src.Overfull · (.tooManyFunctions dll src.limits.maxImportFunctions)) := by
      ext index
      rw [Finset.mem_coe, mem_reached]
      constructor
      · rintro ⟨allowed, row, full⟩
        exact ⟨by omega, row, dll, rfl, full⟩
      · rintro ⟨allowed, row, _, same, full⟩
        cases same
        exact ⟨by omega, row, full⟩
    rw [noted, Array.count_toList, Source.count_descriptorsFrom rfl functions, same,
      Set.ncard_coe_finset]
    simp

/-- A directory for one DLL with two functions, as many as are allowed. -/
def fullDirectory : Source :=
  { smallDirectory with limits := { maxImportDlls := 1, maxImportFunctions := 2 } }

theorem full_directory_is_reported :
    fullDirectory.sections.offset? 0x1000 = some 0 ∧
      Row fullDirectory.HasDescriptor descriptorSize 0 1 ∧ ¬ fullDirectory.HasDescriptor 20 ∧
      ReportsLimits fullDirectory 0 (read fullDirectory 0x1000).2 ∧
      read fullDirectory 0x1000 = (⟨[⟨"k", [⟨none, some 7, none⟩, ⟨some "f", none, some 0x201⟩]⟩]⟩,
        [.tooManyFunctions "k" 2, .tooManyDlls 1]) := by
  have located : fullDirectory.sections.offset? 0x1000 = some 0 := by decide
  refine ⟨located, fun k hk => ?_, ?_, ?_, by decide +kernel⟩
  · obtain rfl := Nat.lt_one_iff.1 hk
    exact ⟨_, rfl, by decide +kernel⟩
  · rintro ⟨bytes, there, used⟩
    have zero : fullDirectory.data.span? 20 descriptorSize = some (Array.replicate 20 0) := by
      decide +kernel
    rw [zero] at there
    cases there
    exact absurd used (by decide +kernel)
  · exact (limits_are_reported_when_reached _ _ _ located (by decide) (by decide)).1

end ImportTable

end PeFacts
