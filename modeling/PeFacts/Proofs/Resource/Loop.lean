import Mathlib
import PeFacts.Guarded.Resource
import PeFacts.Proofs.Resource.Traversal

/-!
# The walk of the resource tree is its traversal

The walk keeps a list of the directories still to visit, and puts those below a directory in front of
it. Fuel that covers that list and the budget makes no difference (`visitAll_of_enough`), and then
visiting a branch in front of the list is traversing it and going on with the list
(`run_branch`). So the walk finds what the traversal from the root finds: `resources_are_traversed`.
-/

namespace PeFacts.ResourceIndex

open Traversal

/-- The branch as it is kept for later. -/
def Branch.pending (b : Branch) : Pending where
  directory := b.directory
  level := b.path.length
  type := b.path.head?.getD {}
  name := b.path.tail.getLast?.getD {}

/-- A branch below another one is kept with one more key. -/
theorem pending_below (b : Branch) (key : ResourceKey) (directory : Nat) :
    b.pending.below key directory = (⟨directory, b.path ++ [key]⟩ : Branch).pending := by
  obtain ⟨d, path⟩ := b
  match path with
  | [] => rfl
  | [type] => rfl
  | type :: name :: rest =>
    have last : (name :: (rest ++ [key])).getLast? = some key := by
      rw [← List.cons_append, List.getLast?_append]
      rfl
    simp [Branch.pending, Pending.below, typeLevel, last]

namespace Source

variable (src : Source)

/-- The state of the walk that a traversal comes to. -/
def walkOf (t : Traversal) : Walk where
  found := t.leaves.toArray
  problems := t.problems.toArray
  entered := t.entered
  budget := src.limits.maxResourceNodes.toNat - t.nodes

/-- Visits the directories of a list with as much fuel as they and the budget need. -/
def run (pending : List Pending) (w : Walk) : Walk :=
  src.visitAll (pending.length + w.budget) pending w

/-- Goes on with a list of directories, if the traversal was not stopped. -/
def goOn (rest : List Pending) : Except Traversal Traversal → Walk
  | .ok t => src.run rest (src.walkOf t)
  | .error t => src.walkOf t

/-- The scan has read what was read of a directory, and keeps the branches below it. -/
inductive Scanned (below : List Branch) : Except Traversal Traversal → Scan → Prop
  | ok {t : Traversal} {kept : Array Pending} (all : kept.toList = below.map Branch.pending) :
      Scanned below (.ok t) ⟨src.walkOf t, kept, false⟩
  | error {t : Traversal} {kept : Array Pending} : Scanned below (.error t) ⟨src.walkOf t, kept, true⟩

end Source

variable {src : Source} {b : Branch} {t : Traversal}

@[simp] theorem walkOf_note (p : Problem) : src.walkOf (t.note p) = (src.walkOf t).note p := by
  simp [Source.walkOf, Traversal.note, Walk.note, Reading.report]

/-! ## Fuel -/

theorem visitAll_nil (fuel : Nat) (w : Walk) : src.visitAll fuel [] w = w := by
  cases fuel <;> rfl

/-- Fuel that covers the list and the budget makes no difference. -/
theorem visitAll_of_enough {fuel fuel' : Nat} {pending : List Pending} {w : Walk}
    (enough : pending.length + w.budget ≤ fuel) (enough' : pending.length + w.budget ≤ fuel') :
    src.visitAll fuel pending w = src.visitAll fuel' pending w := by
  induction fuel generalizing fuel' pending w with
  | zero =>
    obtain rfl : pending = [] := List.eq_nil_of_length_eq_zero (by omega)
    rw [visitAll_nil, visitAll_nil]
  | succ fuel ih =>
    cases pending with
    | nil => rw [visitAll_nil, visitAll_nil]
    | cons p rest =>
      rw [List.length_cons] at enough enough'
      obtain ⟨fuel', rfl⟩ : ∃ k, fuel' = k + 1 := ⟨fuel' - 1, by omega⟩
      have bound := Guarded.visit_bound src p w
      simp only [Guarded.ahead] at bound
      have length : ((src.visit p w).below.toList ++ rest).length =
          (src.visit p w).below.size + rest.length := by simp
      rw [Source.visitAll, Source.visitAll]
      split
      · rfl
      · exact ih (by omega) (by omega)

theorem run_nil (w : Walk) : src.run [] w = w := visitAll_nil _ w

/-- The directories below one are visited before those behind it. -/
theorem run_cons (p : Pending) (rest : List Pending) (w : Walk) :
    src.run (p :: rest) w =
      if (src.visit p w).exhausted then (src.visit p w).walk
      else src.run ((src.visit p w).below.toList ++ rest) (src.visit p w).walk := by
  have more : (p :: rest).length + w.budget = rest.length + w.budget + 1 := by
    rw [List.length_cons, Nat.add_right_comm]
  have bound := Guarded.visit_bound src p w
  simp only [Guarded.ahead] at bound
  have length : ((src.visit p w).below.toList ++ rest).length =
      (src.visit p w).below.size + rest.length := by simp
  rw [Source.run, more, Source.visitAll]
  split
  · rfl
  · exact visitAll_of_enough (by omega) (Nat.le_refl _)

/-! ## One directory -/

/-- An entry is taken in, and a branch is kept. -/
theorem entry_walkOf {i raw target : Nat} (found : src.entryAt? b.directory i = some (raw, target))
    (kept : Array Pending) :
    src.entry b.pending raw target ⟨src.walkOf t, kept, false⟩ =
      ⟨src.walkOf (src.emit b raw target t),
        kept ++ ((src.branchAt? b i).toList.map Branch.pending).toArray, false⟩ := by
  have branch : src.branchAt? b i =
      if highBit ≤ target then some ⟨target % highBit, b.path ++ [src.key raw]⟩ else none := by
    rw [Source.branchAt?, found]
    rfl
  rw [branch]
  unfold Source.entry Source.emit
  split
  · simp [pending_below]
  next data =>
    obtain ⟨d, path⟩ := b
    match path with
    | [type, name] =>
      have leaf : src.leaf? (Branch.pending ⟨d, [type, name]⟩) (src.key raw) target =
          src.leaf? ⟨d, languageLevel, type, name⟩ (src.key raw) target := rfl
      rw [if_neg (by simp [Branch.pending, languageLevel]), leaf]
      cases found : src.leaf? ⟨d, languageLevel, type, name⟩ (src.key raw) target with
      | none => simp [found]
      | some e => simp [found, Source.walkOf, Traversal.find, Reading.keep]
    | [] | [_] | _ :: _ :: _ :: _ =>
      simp [Branch.pending, languageLevel]

/-- An entry is paid for with one of the budget. -/
theorem walkOf_count (t : Traversal) :
    { src.walkOf t with budget := (src.walkOf t).budget - 1 } = src.walkOf t.count := by
  simp only [Source.walkOf, Traversal.count]
  rw [Nat.sub_sub]

/-- From an entry that is outside the buffer on there are no branches. -/
theorem no_branch_of_outside {i : Nat} (outside : src.entryAt? b.directory i = none) (left : Nat) :
    (List.range' i left).filterMap (src.branchAt? b) = [] := by
  refine List.filterMap_eq_nil_iff.2 fun j there => ?_
  rw [Source.branchAt?, entryAt?_eq_none_of_le outside (List.mem_range'_1.1 there).1]
  rfl

/-- The entries of a directory are scanned as they are read. -/
theorem scanned_entriesFrom (b : Branch) (t : Traversal) (i left : Nat) {above : List Branch}
    {kept : Array Pending} (all : kept.toList = above.map Branch.pending) :
    src.Scanned (above ++ (List.range' i left).filterMap (src.branchAt? b))
      (src.readEntries b (List.range' i left) t)
      (src.entriesFrom b.pending i (src.base + b.directory + directorySize + entrySize * i) left
        ⟨src.walkOf t, kept, false⟩) := by
  induction left generalizing t i above kept with
  | zero =>
    rw [List.range'_zero, List.filterMap_nil, List.append_nil]
    exact .ok all
  | succ left ih =>
    rw [Source.entriesFrom]
    by_cases spent : src.limits.maxResourceNodes ≤ t.nodes
    · have none_left : (src.walkOf t).budget = 0 := by
        simp only [Source.walkOf]
        omega
      rw [List.range'_succ, Source.readEntries, if_pos spent, if_pos none_left, ← walkOf_note]
      exact .error
    have more : t.nodes < src.limits.maxResourceNodes := Int.not_le.1 spent
    have some_left : (src.walkOf t).budget ≠ 0 := by
      simp only [Source.walkOf]
      omega
    rw [if_neg some_left, walkOf_count]
    dsimp only
    have outside (entry : src.entryAt? b.directory i = none) :
        src.Scanned (above ++ (List.range' i (left + 1)).filterMap (src.branchAt? b))
          (src.readEntries b (List.range' i (left + 1)) t)
          ⟨(src.walkOf t.count).note (.resourceEntryOutside b.directory i), kept, false⟩ := by
      rw [no_branch_of_outside entry, List.append_nil, List.range'_succ,
        readEntries_of_outside more entry, ← walkOf_note]
      exact .ok all
    cases first : src.data.u32? (src.base + b.directory + directorySize + entrySize * i) with
    | none => exact outside (by simp [Source.entryAt?, first])
    | some raw =>
      cases second : src.data.u32? (src.base + b.directory + directorySize + entrySize * i + 4) with
      | none => exact outside (by simp [Source.entryAt?, first, second])
      | some target =>
        have entry : src.entryAt? b.directory i = some (raw, target) := by
          simp [Source.entryAt?, first, second]
        have next : src.base + b.directory + directorySize + entrySize * i + entrySize =
            src.base + b.directory + directorySize + entrySize * (i + 1) := by
          rw [Nat.mul_succ, Nat.add_assoc]
        have split : above ++ (List.range' i (left + 1)).filterMap (src.branchAt? b) =
            above ++ (src.branchAt? b i).toList ++
              (List.range' (i + 1) left).filterMap (src.branchAt? b) := by
          rw [List.range'_succ]
          cases branch : src.branchAt? b i <;> simp [branch]
        rw [split, List.range'_succ, readEntries_of_entry more entry]
        dsimp only
        rw [entry_walkOf entry, next]
        exact ih _ (i + 1) (by simp [all])

/-- A directory that was entered before is not entered again. -/
theorem visit_known (known : b.directory ∈ t.entered) :
    src.visit b.pending (src.walkOf t) =
      { walk := src.walkOf (t.note (.resourceCycle b.directory)) } := by
  have met : (src.walkOf t).entered.contains b.pending.directory = true :=
    List.contains_iff_mem.2 known
  rw [Source.visit, if_pos met, walkOf_note]
  rfl

section New

variable (new : b.directory ∉ t.entered)

include new

theorem visit_deep (deep : src.limits.maxResourceDepth ≤ b.path.length) :
    src.visit b.pending (src.walkOf t) =
      { walk := src.walkOf (t.note (.resourceTooDeep src.limits.maxResourceDepth b.directory)) } := by
  have unmet : ¬ (src.walkOf t).entered.contains b.pending.directory = true :=
    fun met => new (List.contains_iff_mem.1 met)
  have level : (b.pending.level : Int) ≥ src.limits.maxResourceDepth := deep
  rw [Source.visit, if_neg unmet, if_pos level, walkOf_note]
  rfl

variable (shallow : b.path.length < src.limits.maxResourceDepth)

include shallow

theorem visit_outside (outside : ¬ src.data.holds (src.base + b.directory) directorySize) :
    src.visit b.pending (src.walkOf t) =
      { walk := src.walkOf ((t.enter b.directory).note (.resourceDirectoryOutside b.directory)) } := by
  have unmet : ¬ (src.walkOf t).entered.contains b.pending.directory = true :=
    fun met => new (List.contains_iff_mem.1 met)
  have level : ¬ (b.pending.level : Int) ≥ src.limits.maxResourceDepth := Int.not_le.2 shallow
  have short : (!src.data.holds (src.base + b.directory) directorySize) = true := by
    rw [Bool.eq_false_of_not_eq_true outside]
    rfl
  rw [Source.visit, if_neg unmet, if_neg level, walkOf_note]
  exact if_pos short

theorem visit_inside (room : src.data.holds (src.base + b.directory) directorySize) :
    src.visit b.pending (src.walkOf t) =
      src.entriesFrom b.pending 0 (src.base + b.directory + directorySize)
        (src.entryCount b.directory) ⟨src.walkOf (t.enter b.directory), #[], false⟩ := by
  have unmet : ¬ (src.walkOf t).entered.contains b.pending.directory = true :=
    fun met => new (List.contains_iff_mem.1 met)
  have level : ¬ (b.pending.level : Int) ≥ src.limits.maxResourceDepth := Int.not_le.2 shallow
  have long : ¬ (!src.data.holds (src.base + b.directory) directorySize) = true := by
    rw [room]
    exact Bool.false_ne_true
  rw [Source.visit, if_neg unmet, if_neg level]
  exact if_neg long

end New

/-! ## All directories -/

/-- A directory with nothing below it is done with. -/
theorem run_done {p : Pending} {w w' : Walk} (visited : src.visit p w = { walk := w' })
    (rest : List Pending) : src.run (p :: rest) w = src.run rest w' := by
  rw [run_cons, visited]
  rfl

/-- Branches are visited as they are traversed, if each of them is. -/
theorem run_branches {bs : List Branch} (each : ∀ b ∈ bs, ∀ rest t,
      src.run (b.pending :: rest) (src.walkOf t) =
        src.goOn rest (src.traverse (src.levels b) b t)) (rest : List Pending) (t : Traversal) :
    src.run (bs.map Branch.pending ++ rest) (src.walkOf t) = src.goOn rest (src.traverseAll bs t) := by
  induction bs generalizing t with
  | nil => rfl
  | cons b bs ih =>
    rw [List.map_cons, List.cons_append, each b List.mem_cons_self, Source.traverseAll,
      List.foldlM_cons]
    cases src.traverse (src.levels b) b t with
    | error t' => rfl
    | ok t' => exact ih (fun c there => each c (List.mem_cons_of_mem b there)) t'

/-- A branch in front of the list is traversed before the walk goes on with the list. -/
theorem run_branch {levels : Nat} (here : src.levels b = levels) (rest : List Pending)
    (t : Traversal) :
    src.run (b.pending :: rest) (src.walkOf t) = src.goOn rest (src.traverse levels b t) := by
  induction levels generalizing b rest t with
  | zero =>
    have deep : src.limits.maxResourceDepth ≤ b.path.length := by
      unfold Source.levels at here
      omega
    rw [Source.traverse]
    by_cases known : b.directory ∈ t.entered
    · rw [if_pos known, run_done (visit_known known)]
      rfl
    · rw [if_neg known, run_done (visit_deep known deep)]
      rfl
  | succ levels ih =>
    have shallow : b.path.length < src.limits.maxResourceDepth := by
      unfold Source.levels at here
      omega
    by_cases known : b.directory ∈ t.entered
    · rw [Source.traverse, if_pos known, run_done (visit_known known)]
      rfl
    by_cases room : src.data.holds (src.base + b.directory) directorySize
    · rw [traverse_succ here known room, run_cons, visit_inside known shallow room]
      have nothing_kept : (#[] : Array Pending).toList = [].map Branch.pending := rfl
      have scanned : src.Scanned _ _ _ := scanned_entriesFrom b (t.enter b.directory) 0
        (src.entryCount b.directory) nothing_kept
      rw [Nat.mul_zero, Nat.add_zero, List.nil_append, ← List.range_eq_range'] at scanned
      revert scanned
      generalize src.entriesFrom _ _ _ _ _ = s
      generalize src.readEntries _ _ _ = r
      rintro (⟨all⟩ | _)
      · rw [if_neg (by simp), all]
        refine run_branches (fun c there rest t => ?_) rest _
        have below := levels_of_mem_below there here
        rw [below]
        exact ih below rest t
      · rfl
    · rw [Source.traverse, if_neg known, if_neg room, run_done (visit_outside known shallow room)]
      rfl

/-! ## The whole tree -/

/-- The walk from the root comes to where the traversal does. -/
theorem visitAll_eq_traversal (src : Source) {fuel : Nat}
    (enough : src.limits.maxResourceNodes.toNat < fuel) :
    src.visitAll fuel [{ directory := 0, level := typeLevel }]
      { budget := src.limits.maxResourceNodes.toNat } = src.walkOf src.traversal := by
  have each : ∀ b ∈ [(⟨0, []⟩ : Branch)], ∀ rest t, src.run (b.pending :: rest) (src.walkOf t) =
      src.goOn rest (src.traverse (src.levels b) b t) := fun _ _ => run_branch rfl
  have root := run_branches each [] {}
  have ended (r : Except Traversal Traversal) : src.goOn [] r = src.walkOf (Traversal.ended r) := by
    cases r with
    | ok t => exact run_nil _
    | error t => rfl
  rw [ended] at root
  rw [Source.traversal, ← root]
  exact visitAll_of_enough (by simp only [List.length_singleton]; omega) (Nat.le_refl _)

/-- What the traversal of the tree at an address finds, with the problems met. -/
def traversed (data : Bytes) (sections : SectionTable) (limits : Limits) (rva : Nat) :
    ResourceIndex × List Problem :=
  match (sections.offset? rva).filter (data.holds · directorySize) with
  | none => ({}, [.resourcesUnmappable rva])
  | some base =>
    let t := (⟨data, sections, limits, base⟩ : Source).traversal
    ({ entries := t.leaves
       timestamp? := data.u32? (base + 4)
       majorVersion? := data.u16? (base + 8)
       minorVersion? := data.u16? (base + 10) },
      t.problems)

theorem read_eq_traversed (data : Bytes) (sections : SectionTable) (limits : Limits) (rva : Nat) :
    read data sections limits rva = traversed data sections limits rva := by
  unfold read traversed
  cases (sections.offset? rva).filter (data.holds · directorySize) with
  | none => rfl
  | some base =>
    have walk := visitAll_eq_traversal ⟨data, sections, limits, base⟩
      (Nat.lt_add_of_pos_right (show 0 < 2 by decide))
    simp only [walk]
    rfl

/-- What the walk of a tree is, wherever its offsets lead. -/
structure Source.Traverses (src : Source) : Prop where
  /-- The walk comes to an end, and to where the traversal does. -/
  walk : ∀ {fuel}, src.limits.maxResourceNodes.toNat < fuel →
    src.visitAll fuel [{ directory := 0, level := typeLevel }]
      { budget := src.limits.maxResourceNodes.toNat } = src.walkOf src.traversal
  /-- No directory is entered twice. -/
  entered : src.traversal.entered.Nodup
  few : (src.traversal.nodes : Int) ≤ max 0 src.limits.maxResourceNodes
  leaves : ∀ e ∈ src.traversal.leaves, ∃ b i raw target,
    src.LeafOf src.traversal.entered e b i raw target
  /-- A branch that was entered before, that is too deep or that is outside the buffer is one
  problem. -/
  branch : ∀ {t b p}, src.badBranch? b t = some p → ∀ rest,
    Pruned t p (src.traverseAll (b :: rest) t) (src.traverseAll rest t)
  /-- So is data above or below the languages, and a data entry that is outside. -/
  data : ∀ {t b i p}, src.badEntry? b i = some p → t.nodes < src.limits.maxResourceNodes →
    ∀ indices rest, Pruned t p ((src.readEntries b (i :: indices) t).bind (src.traverseAll rest))
      ((src.readEntries b indices t.count).bind (src.traverseAll rest))
  /-- So is an entry that is outside, and so are then all behind it. -/
  entry : ∀ {t b i}, src.entryAt? b.directory i = none → t.nodes < src.limits.maxResourceNodes →
    ∀ indices rest, Pruned t (.resourceEntryOutside b.directory i)
        ((src.readEntries b (i :: indices) t).bind (src.traverseAll rest))
        (src.traverseAll rest t.count) ∧
      ∀ j, i ≤ j → src.entryAt? b.directory j = none

/-- Whatever the bytes are, reading the resources comes to an end and finds what the traversal from the
root finds: every leaf with the keys of its own path, and each bad branch as one problem. -/
theorem resources_are_traversed (data : Bytes) (sections : SectionTable) (limits : Limits)
    (rva : Nat) :
    (read data sections limits rva = traversed data sections limits rva ∧
      Guarded.Yields sections (Guarded.resources data sections limits rva)
        (traversed data sections limits rva)) ∧
      ∀ base, Source.Traverses ⟨data, sections, limits, base⟩ := by
  have read := read_eq_traversed data sections limits rva
  refine ⟨⟨read, read ▸ Guarded.yields_resources data sections limits rva⟩, fun base => ?_⟩
  have sound := sound_traversal ⟨data, sections, limits, base⟩
  exact {
    walk := fun enough => visitAll_eq_traversal _ enough
    entered := sound.entered
    few := Int.le_trans (Int.ofNat_le.2 sound.few) (by omega)
    leaves := sound.each
    branch := pruned_branch
    data := pruned_entry
    entry := pruned_outside }

end PeFacts.ResourceIndex
