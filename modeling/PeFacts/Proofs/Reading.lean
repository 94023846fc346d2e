import PeFacts.Guarded.Import
import PeFacts.Proofs.Stored
import PeFacts.VersionInfo

/-!
# What a reading takes in

A loop over a table keeps an item or notes a problem in each round. `Reading.Grows n P Q` says what
came of some rounds: no more than `n` items, each with `P`, and problems with `Q`. Rounds add up
(`Grows.trans`), so one lemma for each reader of the import directory gives how much it finds, what
names it finds and what it notes. The blocks of version information are read with one reading that
is passed along; `VersionInfo.blocks_keeps` says what they leave as it is.
-/

namespace PeFacts

/-- The problem leaves the buffer an image. -/
def Problem.Minor (p : Problem) : Prop := p.kind ≠ .notPe

theorem Problem.Minor.of_kind {p : Problem} (other : decide (p.kind = .notPe) = false) :
    p.Minor :=
  of_decide_eq_false other

/-- The name is one that the limits let through. A bound below zero counts back from the end of the
buffer and says nothing of how long a name is. -/
def Limits.Admits (limits : Limits) (name : String) : Prop :=
  0 ≤ limits.maxNameLength → (name.length : Int) < max 1 limits.maxNameLength

/-! ## Names -/

theorem length_asciiText (bytes : List UInt8) : (asciiText bytes).length = bytes.length := by
  simp [asciiText]

namespace Bytes

variable {data : Bytes} {off : Nat} {text : String}

/-- The zero byte stands before the bound, so the text is shorter. -/
theorem admits_of_cString? {limits : Limits}
    (found : data.cString? off limits.maxNameLength = some text) : limits.Admits text := by
  intro forward
  unfold cString? at found
  split at found
  · cases found
  · obtain ⟨nul, zero, rfl⟩ := Option.map_eq_some_iff.1 found
    obtain ⟨k, before, rfl, -⟩ := zeroByte?_eq_some zero
    rw [length_asciiText, Array.length_toList, Array.size_extract]
    unfold cut at before
    split at before <;> omega

end Bytes

/-! ## Rounds -/

/-- From `r` to `r'` no more than `n` items were kept, each with `P`, and problems with `Q` were
noted. -/
structure Reading.Grows {α : Type} (n : Nat) (P : α → Prop) (Q : Problem → Prop)
    (r r' : Reading α) : Prop where
  found : ∃ items : List α, items.length ≤ n ∧ (∀ a ∈ items, P a) ∧
    r'.found.toList = r.found.toList ++ items
  noted : ∃ problems : List Problem, (∀ p ∈ problems, Q p) ∧
    r'.problems.toList = r.problems.toList ++ problems

namespace Reading.Grows

variable {α : Type} {n m : Nat} {P : α → Prop} {Q : Problem → Prop} {r r' r'' : Reading α}

theorem refl (n : Nat) (P : α → Prop) (Q : Problem → Prop) (r : Reading α) : Grows n P Q r r where
  found := ⟨[], Nat.zero_le n, nofun, (List.append_nil _).symm⟩
  noted := ⟨[], nofun, (List.append_nil _).symm⟩

theorem report (n : Nat) (P : α → Prop) (r : Reading α) {p : Problem} (holds : Q p) :
    Grows n P Q r (r.report p) where
  found := ⟨[], Nat.zero_le n, nofun, (List.append_nil _).symm⟩
  noted := ⟨[p], List.forall_mem_singleton.2 holds, Array.toList_push⟩

theorem keep (Q : Problem → Prop) (r : Reading α) {a : α} (holds : P a) :
    Grows 1 P Q r (r.keep a) where
  found := ⟨[a], Nat.le_refl 1, List.forall_mem_singleton.2 holds, Array.toList_push⟩
  noted := ⟨[], nofun, (List.append_nil _).symm⟩

theorem trans (h : Grows n P Q r r') (h' : Grows m P Q r' r'') : Grows (n + m) P Q r r'' := by
  obtain ⟨items, few, each, kept⟩ := h.found
  obtain ⟨items', few', each', kept'⟩ := h'.found
  obtain ⟨problems, all, noted⟩ := h.noted
  obtain ⟨problems', all', noted'⟩ := h'.noted
  constructor
  · refine ⟨items ++ items', ?_, fun a there => ?_, by rw [kept', kept, List.append_assoc]⟩
    · rw [List.length_append]
      exact Nat.add_le_add few few'
    · exact (List.mem_append.1 there).elim (each a) (each' a)
  · refine ⟨problems ++ problems', fun p there => ?_, by rw [noted', noted, List.append_assoc]⟩
    exact (List.mem_append.1 there).elim (all p) (all' p)

theorem length_le (h : Grows n P Q {} r) : r.found.toList.length ≤ n := by
  obtain ⟨items, few, -, kept⟩ := h.found
  rw [kept]
  exact few

theorem each (h : Grows n P Q {} r) : ∀ a ∈ r.found.toList, P a := by
  obtain ⟨items, -, each, kept⟩ := h.found
  rw [kept]
  exact each

theorem problems (h : Grows n P Q {} r) : ∀ p ∈ r.problems.toList, Q p := by
  obtain ⟨problems, all, noted⟩ := h.noted
  rw [noted]
  exact all

end Reading.Grows

/-! ## Imports -/

/-- The name of the function, if it has one, is one that the limits let through. -/
def ImportedFunction.Within (limits : Limits) (f : ImportedFunction) : Prop :=
  ∀ name, f.name? = some name → limits.Admits name

/-- A DLL is within the limits. -/
structure ImportedDll.Within (limits : Limits) (d : ImportedDll) : Prop where
  name : limits.Admits d.name
  few : (d.functions.length : Int) ≤ max 0 limits.maxImportFunctions
  functions : ∀ f ∈ d.functions, f.Within limits

namespace ImportTable.Source

variable {src : Source}

theorem text?_eq_some_iff {rva skip : Nat} {text : String} :
    src.text? rva skip = some text ↔ text ≠ "" ∧ ∃ off, src.sections.offset? rva = some off ∧
      src.data.cString? (off + skip) src.limits.maxNameLength = some text := by
  rw [Guarded.text?_eq, Option.filter_eq_some_iff, Option.bind_eq_some_iff, and_comm]
  simp

/-- A thunk stands for an ordinal, or for a hint and a name. -/
theorem function?_cases {thunk : Nat} {f : ImportedFunction} (found : src.function? thunk = some f) :
    (∃ n < 0x10000, f = ⟨none, some ((n : Nat) : Int), none⟩) ∨
      ∃ hint < 0x10000, ∃ rva name, src.text? rva 2 = some name ∧ f = ⟨some name, none, some hint⟩ := by
  unfold function? at found
  split at found
  · cases found
    exact .inl ⟨_, Nat.mod_lt _ (by decide), rfl⟩
  · simp only [Option.bind_eq_bind, Option.bind_eq_some_iff] at found
    obtain ⟨off, -, hint, number, name, read, made⟩ := found
    cases made
    obtain ⟨-, rfl⟩ := Bytes.number?_eq_some_iff.1 number
    exact .inr ⟨_, src.data.number_lt off 2, _, name, read, rfl⟩

theorem admits_of_text? {rva skip : Nat} {name : String}
    (found : src.text? rva skip = some name) : src.limits.Admits name := by
  obtain ⟨-, off, -, read⟩ := text?_eq_some_iff.1 found
  exact Bytes.admits_of_cString? read

theorem within_of_function? {thunk : Nat} {f : ImportedFunction}
    (found : src.function? thunk = some f) : f.Within src.limits := by
  intro name named
  obtain ⟨n, -, rfl⟩ | ⟨hint, -, rva, text, read, rfl⟩ := function?_cases found
  · cases named
  · cases named
    exact admits_of_text? read

variable (src : Source)

/-- Some thunk stands for the function. -/
def HasFunction (f : ImportedFunction) : Prop := ∃ thunk, src.function? thunk = some f

/-- The DLL is put together of what is read: a text, and functions that thunks stand for. -/
structure Reads (d : ImportedDll) : Prop where
  name : ∃ rva, src.text? rva = some d.name
  few : (d.functions.length : Int) ≤ max 0 src.limits.maxImportFunctions
  functions : ∀ f ∈ d.functions, src.HasFunction f

variable {src} in
theorem Reads.within {d : ImportedDll} (h : src.Reads d) : d.Within src.limits where
  name := by
    obtain ⟨rva, read⟩ := h.name
    exact admits_of_text? read
  few := h.few
  functions f there := by
    obtain ⟨thunk, found⟩ := h.functions f there
    exact within_of_function? found

/-- A thunk adds one function at most. -/
theorem grows_thunksFrom (dll : String) (start off left : Nat) (r : Reading ImportedFunction) :
    r.Grows left src.HasFunction Problem.Minor (src.thunksFrom dll start off left r) := by
  induction left generalizing off r with
  | zero => exact .report _ _ r (.of_kind rfl)
  | succ left ih =>
    rw [thunksFrom, Nat.add_comm left 1]
    split
    · exact .report _ _ r (.of_kind rfl)
    · exact .refl ..
    · refine .trans ?_ (ih ..)
      split
      next f found => exact .keep _ r ⟨_, found⟩
      · exact .report _ _ r (.of_kind rfl)

theorem grows_functions (dll : String) (rva : Nat) :
    Reading.Grows src.limits.maxImportFunctions.toNat src.HasFunction Problem.Minor {}
      (src.functions dll rva) := by
  unfold functions
  split
  · exact .report _ _ {} (.of_kind rfl)
  · split
    · exact .refl ..
    · exact src.grows_thunksFrom dll _ _ _ _

/-- A descriptor adds one DLL at most. -/
theorem grows_descriptor (off : Nat) (r : Reading ImportedDll) :
    r.Grows 1 src.Reads Problem.Minor (src.descriptor off r) := by
  unfold descriptor
  dsimp only
  split
  · exact .report _ _ r (.of_kind rfl)
  next name read =>
    have functions := src.grows_functions name
      (if src.data.number off 4 = 0 then src.data.number (off + 16) 4 else src.data.number off 4)
    have few := Int.le_trans (Int.ofNat_le.2 functions.length_le)
      (show (src.limits.maxImportFunctions.toNat : Int) ≤ max 0 src.limits.maxImportFunctions by omega)
    have dll : src.Reads ⟨name, _⟩ := ⟨⟨_, read⟩, few, functions.each⟩
    exact ⟨(Reading.Grows.keep Problem.Minor r dll).found, _, functions.problems,
      Array.toList_append⟩

theorem grows_descriptorsFrom (off left : Nat) (r : Reading ImportedDll) :
    r.Grows left src.Reads Problem.Minor (src.descriptorsFrom off left r) := by
  induction left generalizing off r with
  | zero => exact .report _ _ r (.of_kind rfl)
  | succ left ih =>
    rw [descriptorsFrom, Nat.add_comm left 1]
    split
    · exact .report _ _ r (.of_kind rfl)
    · split
      · exact .refl ..
      · exact (src.grows_descriptor off r).trans (ih ..)

/-- Every DLL of an import table is put together of what is read. -/
theorem reads_of_mem_read {rva : Nat} {d : ImportedDll} (there : d ∈ (read src rva).1.dlls) :
    src.Reads d := by
  unfold read at there
  split at there
  · cases there
  · split at there
    · cases there
    · exact (src.grows_descriptorsFrom _ _ {}).each d there

end ImportTable.Source

/-! ## Version information -/

namespace VersionInfo

section Keeps

variable {data : Bytes} {bounds : Bounds} {I : Pairs → Prop}
  (value : ∀ b pairs, I pairs → I (keepValue data bounds b pairs))

include value

theorem siblings_keeps {inside : Nat → Nat → Pairs → Pairs}
    (within : ∀ off stop pairs, I pairs → I (inside off stop pairs)) (stop fuel off : Nat)
    {pairs : Pairs} (h : I pairs) : I (siblings data bounds inside stop fuel off pairs) := by
  induction fuel generalizing off pairs with
  | zero => exact h
  | succ fuel ih =>
    rw [siblings]
    split
    · exact h
    next b _ =>
      have kept := value b pairs h
      dsimp only
      apply ih
      split
      · exact within _ _ _ kept
      · exact kept

/-- What the value of a block and blocks that are too deep leave as it is, all blocks do. -/
theorem blocks_keeps (deep : ∀ pairs, I pairs → I (pairs.report (.versionTooDeep (maxNesting + 1))))
    (levels off stop : Nat) (pairs : Pairs) (h : I pairs) :
    I (blocks data bounds levels off stop pairs) := by
  induction levels generalizing off stop pairs with
  | zero => exact deep pairs h
  | succ levels ih => exact siblings_keeps value ih stop _ _ h

end Keeps

end VersionInfo

end PeFacts
