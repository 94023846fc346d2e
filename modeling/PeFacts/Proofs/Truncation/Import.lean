import PeFacts.Guarded.Import
import PeFacts.Proofs.Truncation.Header

/-!
# Imports of a truncated buffer

A truncated buffer may lose the name of a DLL or of a function, and with it an item of a list, so the
lists of the two buffers are compared descriptor by descriptor (`located_extends`): each DLL that the
truncated buffer has is the one of the same descriptor, with some of its functions.
-/

namespace PeFacts.ImportTable

namespace Source

/-- The DLL whose descriptor is at `off`, when its name can be read. -/
def dll? (src : Source) (off : Nat) : Option ImportedDll :=
  let unboundThunks := src.data.number off 4
  let boundThunks := src.data.number (off + 16) 4
  (src.text? (src.data.number (off + 12) 4)).map fun name =>
    ⟨name, (src.functions name
      (if unboundThunks = 0 then boundThunks else unboundThunks)).found.toList⟩

/-- The DLLs of the descriptors from `off` on, each with the position of its descriptor. -/
def dllsFrom (src : Source) (off : Nat) : (left : Nat) → List (Nat × ImportedDll)
  | 0 => []
  | left + 1 =>
    match src.data.span? off descriptorSize with
    | none => []
    | some descriptor =>
      if descriptor.all (· == 0) then []
      else ((src.dll? off).map (off, ·)).toList ++ src.dllsFrom (off + descriptorSize) left

end Source

/-- The imported DLLs, each with the position of its descriptor. -/
def located (src : Source) (rva : Nat) : List (Nat × ImportedDll) :=
  match src.sections.offset? rva with
  | none => []
  | some off =>
    if src.limits.maxImportDlls < 0 then [] else src.dllsFrom off src.limits.maxImportDlls.toNat

variable (src : Source)

theorem descriptor_found (off : Nat) (r : Reading ImportedDll) :
    (src.descriptor off r).found.toList = r.found.toList ++ (src.dll? off).toList := by
  unfold Source.descriptor Source.dll?
  dsimp only
  cases src.text? (src.data.number (off + 12) 4) with
  | none => simp [Reading.report]
  | some name => simp

theorem descriptorsFrom_found (off left : Nat) (r : Reading ImportedDll) :
    (src.descriptorsFrom off left r).found.toList =
      r.found.toList ++ (src.dllsFrom off left).map (·.2) := by
  induction left generalizing off r with
  | zero => simp [Source.descriptorsFrom, Source.dllsFrom, Reading.report]
  | succ left ih =>
    rw [Source.descriptorsFrom, Source.dllsFrom]
    cases src.data.span? off descriptorSize with
    | none => simp [Reading.report]
    | some descriptor =>
      dsimp only
      split
      · simp
      · rw [ih, descriptor_found, List.map_append, List.append_assoc]
        cases src.dll? off <;> rfl

/-- The DLLs of the table are the located ones, in order. -/
theorem read_dlls (rva : Nat) : (read src rva).1.dlls = (located src rva).map (·.2) := by
  unfold read located
  cases src.sections.offset? rva with
  | none => rfl
  | some off =>
    dsimp only
    split
    · rfl
    · simp [descriptorsFrom_found]

theorem le_of_mem_dllsFrom {off left : Nat} {e : Nat × ImportedDll}
    (h : e ∈ src.dllsFrom off left) : off ≤ e.1 := by
  induction left generalizing off with
  | zero => cases h
  | succ left ih =>
    rw [Source.dllsFrom] at h
    split at h
    · cases h
    · split at h
      · cases h
      · rcases List.mem_append.1 h with here | later
        · obtain ⟨d, -, rfl⟩ := Option.map_eq_some_iff.1 (Option.mem_toList.1 here)
          exact Nat.le_refl _
        · exact Nat.le_trans (Nat.le_add_right _ _) (ih later)

/-- No descriptor gives two DLLs. -/
theorem dllsFrom_pairwise (off left : Nat) :
    (src.dllsFrom off left).Pairwise fun e e' => e.1 < e'.1 := by
  induction left generalizing off with
  | zero => exact .nil
  | succ left ih =>
    rw [Source.dllsFrom]
    split
    · exact .nil
    · split
      · exact .nil
      · refine List.pairwise_append.2 ⟨?_, ih _, ?_⟩
        · cases src.dll? off <;> simp
        · intro e he e' he'
          obtain ⟨d, -, rfl⟩ := Option.map_eq_some_iff.1 (Option.mem_toList.1 he)
          have later := le_of_mem_dllsFrom src he'
          simp only [descriptorSize] at later ⊢
          omega

theorem located_pairwise (rva : Nat) : (located src rva).Pairwise fun e e' => e.1 < e'.1 := by
  unfold located
  cases src.sections.offset? rva with
  | none => exact .nil
  | some off =>
    dsimp only
    split
    · exact .nil
    · exact dllsFrom_pairwise src off _

/-! ## Truncation -/

/-- The second source is the whole buffer of which the first has the beginning. -/
structure Source.Extends (src src' : Source) : Prop where
  data : ∃ rest, src'.data = src.data ++ rest
  layout : src'.layout = src.layout
  sections : src.sections.Extends src'.sections
  limits : src'.limits = src.limits
  /-- Names are not looked for from the end of the buffer. -/
  forward : 0 ≤ src.limits.maxNameLength

/-- The DLL of the same descriptor, with all the functions of the first and maybe more. -/
structure LocatedExtends (e e' : Nat × ImportedDll) : Prop where
  descriptor : e.1 = e'.1
  name : e.2.name = e'.2.name
  functions : e.2.functions.Sublist e'.2.functions

variable {src} {src' : Source}

namespace Source.Extends

theorem persists_text (h : src.Extends src') (rva skip : Nat) :
    Persists (src.text? rva skip) (src'.text? rva skip) := by
  obtain ⟨rest, data⟩ := h.data
  rw [Guarded.text?_eq, Guarded.text?_eq, data, h.limits]
  exact ((h.sections.persists_offset rva).bind fun off =>
    Bytes.persists_cString rest (off + skip) h.forward).filter _

theorem persists_function (h : src.Extends src') (thunk : Nat) :
    Persists (src.function? thunk) (src'.function? thunk) := by
  obtain ⟨rest, data⟩ := h.data
  unfold Source.function?
  rw [h.layout, data]
  split
  · exact .refl _
  · refine Persists.bind (h.sections.persists_offset _) fun off => ?_
    refine Persists.bind (Bytes.persists_number rest off 2) fun hint => ?_
    exact Persists.bind (h.persists_text _ 2) fun name => .refl _

/-- Reading on only adds functions. -/
theorem sublist_thunksFrom (dll : String) (start off left : Nat) (r : Reading ImportedFunction) :
    r.found.toList.Sublist (src.thunksFrom dll start off left r).found.toList := by
  induction left generalizing off r with
  | zero => exact .refl _
  | succ left ih =>
    rw [Source.thunksFrom]
    split
    · exact .refl _
    · exact .refl _
    next thunk _ _ =>
      refine List.Sublist.trans ?_ (ih _ _)
      cases src.function? thunk with
      | none => exact .refl _
      | some f => simp [Reading.keep]

/-- The functions that are kept from the truncated buffer are kept from the whole one. -/
theorem thunksFrom_sublist (h : src.Extends src') (dll : String) (start off left : Nat)
    {r r' : Reading ImportedFunction} (kept : r.found.toList.Sublist r'.found.toList) :
    (src.thunksFrom dll start off left r).found.toList.Sublist
      (src'.thunksFrom dll start off left r').found.toList := by
  obtain ⟨rest, data⟩ := h.data
  induction left generalizing off r r' with
  | zero => simpa [Source.thunksFrom, Reading.report] using kept
  | succ left ih =>
    rw [Source.thunksFrom]
    cases inside : src.data.number? off src.layout.thunkSize with
    | none => exact kept.trans (sublist_thunksFrom dll start off (left + 1) r')
    | some thunk =>
      have same : src'.data.number? off src'.layout.thunkSize = some thunk := by
        rw [data, h.layout]
        exact (Bytes.persists_number rest off src.layout.thunkSize).of_some inside
      rw [Source.thunksFrom, same, h.layout]
      cases thunk with
      | zero => exact kept
      | succ n =>
        refine ih _ ?_
        cases found : src.function? (n + 1) with
        | none =>
          refine kept.trans ?_
          cases src'.function? (n + 1) with
          | none => exact .refl _
          | some f => simp [Reading.keep]
        | some f =>
          rw [(h.persists_function (n + 1)).of_some found]
          simpa [Reading.keep] using kept

theorem functions_sublist (h : src.Extends src') (dll : String) (rva : Nat) :
    (src.functions dll rva).found.toList.Sublist (src'.functions dll rva).found.toList := by
  unfold Source.functions
  rcases h.sections.persists_offset rva with missing | same
  · rw [missing]
    exact List.nil_sublist _
  · rw [← same, h.limits]
    cases src.sections.offset? rva with
    | none => exact .refl _
    | some off =>
      dsimp only
      split
      · exact .refl _
      · exact h.thunksFrom_sublist dll off off _ (.refl _)

theorem dll_extends (h : src.Extends src') {off : Nat} (room : off + descriptorSize ≤ src.data.size)
    {d : ImportedDll} (found : src.dll? off = some d) :
    ∃ d', src'.dll? off = some d' ∧ LocatedExtends (off, d) (off, d') := by
  obtain ⟨rest, data⟩ := h.data
  simp only [descriptorSize] at room
  unfold Source.dll? at found ⊢
  simp (disch := omega) only [data, Bytes.number_append]
  obtain ⟨name, named, rfl⟩ := Option.map_eq_some_iff.1 found
  rw [(h.persists_text _ 0).of_some named]
  exact ⟨_, rfl, rfl, rfl, h.functions_sublist name _⟩

theorem dllsFrom_extends (h : src.Extends src') (off left : Nat) :
    List.SublistForall₂ LocatedExtends (src.dllsFrom off left) (src'.dllsFrom off left) := by
  obtain ⟨rest, data⟩ := h.data
  induction left generalizing off with
  | zero => exact .nil
  | succ left ih =>
    rw [Source.dllsFrom, Source.dllsFrom]
    cases inside : src.data.span? off descriptorSize with
    | none => exact .nil
    | some descriptor =>
      have same : src'.data.span? off descriptorSize = some descriptor :=
        data ▸ (Bytes.persists_span rest off descriptorSize).of_some inside
      rw [same]
      dsimp only
      split
      · exact .nil
      · cases found : src.dll? off with
        | none =>
          cases src'.dll? off with
          | none => exact ih _
          | some d' => exact .cons_right (ih _)
        | some d =>
          obtain ⟨d', found', kept⟩ := h.dll_extends (Bytes.span?_eq_some_iff.1 inside).1 found
          rw [found']
          exact .cons kept (ih _)

end Source.Extends

/-- The DLLs that a truncated buffer imports are DLLs that the whole buffer imports. -/
theorem located_extends (h : src.Extends src') (rva : Nat) :
    List.SublistForall₂ LocatedExtends (located src rva) (located src' rva) := by
  unfold located
  rcases h.sections.persists_offset rva with missing | same
  · rw [missing]
    exact .nil
  · rw [← same, h.limits]
    cases src.sections.offset? rva with
    | none => exact .nil
    | some off =>
      dsimp only
      split
      · exact .nil
      · exact h.dllsFrom_extends off _

theorem exists_of_mem {l l' : List (Nat × ImportedDll)} (h : List.SublistForall₂ LocatedExtends l l')
    {e : Nat × ImportedDll} (he : e ∈ l) : ∃ e' ∈ l', LocatedExtends e e' := by
  induction h with
  | nil => cases he
  | cons head _ ih =>
    rcases List.mem_cons.1 he with rfl | later
    · exact ⟨_, List.mem_cons_self, head⟩
    · obtain ⟨e', he', kept⟩ := ih later
      exact ⟨e', List.mem_cons_of_mem _ he', kept⟩
  | cons_right _ ih =>
    obtain ⟨e', he', kept⟩ := ih he
    exact ⟨e', List.mem_cons_of_mem _ he', kept⟩

/-- A function that is imported from fewer DLLs is imported from more. -/
theorem imports_mono {l l' : List (Nat × ImportedDll)}
    (h : List.SublistForall₂ LocatedExtends l l') (dll : String) (key : FunctionKey)
    (found : (ImportTable.mk (l.map (·.2))).imports dll key) :
    (ImportTable.mk (l'.map (·.2))).imports dll key := by
  obtain ⟨d, hd, matched⟩ := List.any_eq_true.1 found
  obtain ⟨e, he, rfl⟩ := List.mem_map.1 hd
  obtain ⟨e', he', kept⟩ := exists_of_mem h he
  refine List.any_eq_true.2 ⟨e'.2, List.mem_map_of_mem he', ?_⟩
  obtain ⟨named, asked⟩ := Bool.and_eq_true_iff.1 matched
  rw [← kept.name, named, Bool.true_and]
  rcases Bool.or_eq_true_iff.1 asked with any | one
  · rw [any]
    rfl
  · obtain ⟨f, hf, same⟩ := List.any_eq_true.1 one
    exact Bool.or_eq_true_iff.2 (.inr (List.any_eq_true.2 ⟨f, kept.functions.subset hf, same⟩))

end PeFacts.ImportTable
