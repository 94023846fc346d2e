import Mathlib
import PeFacts.Resource

/-!
# The resource tree, traversed from the root

A resource tree may lead anywhere, also back into itself. `Source.traverse` is the traversal that one
would write down first: it recurses into the directories below another one, and what it carries along
is the directories entered and a count of the entries read. What it finds is sound whatever the bytes
are (`sound_traversal`), and a bad branch or entry costs one problem and nothing of the rest
(`pruned_branch`, `pruned_entry`): two traversals that differ in that problem go on abreast.
-/

namespace PeFacts.ResourceIndex

/-- A directory with the keys of the entries that lead to it, that of the root first. -/
structure Branch where
  directory : Nat
  path : List ResourceKey := []
  deriving Repr, DecidableEq

/-- What has come of a traversal so far. -/
structure Traversal where
  leaves : List ResourceEntry := []
  problems : List Problem := []
  /-- The directories entered, the last one first. -/
  entered : List Nat := []
  /-- How many entries have been read. -/
  nodes : Nat := 0

namespace Traversal

/-- The traversal with one more problem. -/
def note (t : Traversal) (p : Problem) : Traversal := { t with problems := t.problems ++ [p] }

/-- The traversal in one more directory. -/
def enter (t : Traversal) (directory : Nat) : Traversal :=
  { t with entered := directory :: t.entered }

/-- The traversal with one more entry. -/
def count (t : Traversal) : Traversal := { t with nodes := t.nodes + 1 }

/-- The traversal with one more leaf. -/
def find (t : Traversal) (leaf : ResourceEntry) : Traversal := { t with leaves := t.leaves ++ [leaf] }

/-- What a traversal came to, whether it was stopped or not. -/
def ended : Except Traversal Traversal → Traversal
  | .ok t => t
  | .error t => t

end Traversal

namespace Source

variable (src : Source)

/-- How many entries a directory announces. -/
def entryCount (directory : Nat) : Nat :=
  src.data.number (src.base + directory + 12) 2 + src.data.number (src.base + directory + 14) 2

/-- An entry of a directory: the number of its key and what it leads to. -/
def entryAt? (directory index : Nat) : Option (Nat × Nat) := do
  let off := src.base + directory + directorySize + entrySize * index
  return (← src.data.u32? off, ← src.data.u32? (off + 4))

/-- The branch that an entry leads to, if it is one. -/
def branchAt? (b : Branch) (index : Nat) : Option Branch := do
  let (raw, target) ← src.entryAt? b.directory index
  if highBit ≤ target then some ⟨target % highBit, b.path ++ [src.key raw]⟩ else none

/-- The branches below a directory, in the order of its entries. -/
def below (b : Branch) : List Branch :=
  (List.range (src.entryCount b.directory)).filterMap (src.branchAt? b)

/-- Takes in an entry. Data stands two levels below the root, and branches are for later. -/
def emit (b : Branch) (raw target : Nat) (t : Traversal) : Traversal :=
  if highBit ≤ target then t
  else
    match b.path with
    | [type, name] =>
      match src.leaf? ⟨b.directory, languageLevel, type, name⟩ (src.key raw) target with
      | some leaf => t.find leaf
      | none => t.note (.resourceDataEntryOutside target)
    | _ => t.note (.resourceLeafAboveLanguage b.directory b.path.length)

/-- Reads the entries of a directory. Too many of them stop everything, and one that is outside the
buffer is the last. -/
def readEntries (b : Branch) : List Nat → Traversal → Except Traversal Traversal
  | [], t => .ok t
  | i :: rest, t =>
    if src.limits.maxResourceNodes ≤ t.nodes then
      .error (t.note (.tooManyResourceNodes src.limits.maxResourceNodes))
    else
      match src.entryAt? b.directory i with
      | none => .ok (t.count.note (.resourceEntryOutside b.directory i))
      | some (raw, target) => readEntries b rest (src.emit b raw target t.count)

/-- Traverses a branch with all that is below it; `levels` is how many more levels may be entered,
this one included. -/
def traverse : (levels : Nat) → Branch → Traversal → Except Traversal Traversal
  | 0, b, t =>
    if b.directory ∈ t.entered then .ok (t.note (.resourceCycle b.directory))
    else .ok (t.note (.resourceTooDeep src.limits.maxResourceDepth b.directory))
  | levels + 1, b, t =>
    if b.directory ∈ t.entered then .ok (t.note (.resourceCycle b.directory))
    else if src.data.holds (src.base + b.directory) directorySize then do
      let t ← src.readEntries b (List.range (src.entryCount b.directory)) (t.enter b.directory)
      (src.below b).foldlM (fun t b => traverse levels b t) t
    else .ok ((t.enter b.directory).note (.resourceDirectoryOutside b.directory))

/-- How many more levels may be entered at a branch, its own included. -/
def levels (b : Branch) : Nat := src.limits.maxResourceDepth.toNat - b.path.length

/-- Traverses branches one after the other. -/
def traverseAll (bs : List Branch) (t : Traversal) : Except Traversal Traversal :=
  bs.foldlM (fun t b => src.traverse (src.levels b) b t) t

/-- What comes of the traversal from the root. -/
def traversal : Traversal := Traversal.ended (src.traverseAll [⟨0, []⟩] {})

end Source

open Traversal

variable {src : Source} {b : Branch} {t : Traversal}

/-- The path of a branch is that of the one above, then the key of its entry. -/
theorem path_of_mem_below {c : Branch} (there : c ∈ src.below b) :
    ∃ raw, c.path = b.path ++ [src.key raw] := by
  obtain ⟨i, -, found⟩ := List.mem_filterMap.1 there
  unfold Source.branchAt? at found
  cases entry : src.entryAt? b.directory i with
  | none => rw [entry] at found; cases found
  | some e =>
    rw [entry] at found
    simp only [Option.bind_eq_bind, Option.bind_some] at found
    split at found
    · cases found
      exact ⟨e.1, rfl⟩
    · cases found

theorem length_path_of_mem_below {c : Branch} (there : c ∈ src.below b) :
    c.path.length = b.path.length + 1 := by
  obtain ⟨raw, path⟩ := path_of_mem_below there
  rw [path, List.length_append, List.length_singleton]

/-- Below a branch there is one level less to enter. -/
theorem levels_of_mem_below {c : Branch} (there : c ∈ src.below b) {levels : Nat}
    (here : src.levels b = levels + 1) : src.levels c = levels := by
  unfold Source.levels at here ⊢
  rw [length_path_of_mem_below there]
  omega

/-- The branches below one are traversed as any others. -/
theorem traverse_succ {levels : Nat} (here : src.levels b = levels + 1)
    (new : b.directory ∉ t.entered)
    (room : src.data.holds (src.base + b.directory) directorySize) :
    src.traverse (levels + 1) b t =
      (src.readEntries b (List.range (src.entryCount b.directory)) (t.enter b.directory)).bind
        (src.traverseAll (src.below b)) := by
  rw [Source.traverse, if_neg new, if_pos room]
  refine congrArg (Except.bind _) (funext fun t' => ?_)
  have same : ∀ bs : List Branch, (∀ c ∈ bs, src.levels c = levels) → ∀ t',
      bs.foldlM (fun t b => src.traverse levels b t) t' = src.traverseAll bs t' := by
    intro bs deep
    induction bs with
    | nil => exact fun _ => rfl
    | cons c bs ih =>
      intro t'
      have first := deep c List.mem_cons_self
      have rest := ih fun c' hc' => deep c' (List.mem_cons_of_mem c hc')
      rw [Source.traverseAll, List.foldlM_cons, List.foldlM_cons, first]
      exact congrArg (Except.bind _) (funext rest)
  exact same _ (fun c there => levels_of_mem_below there here) t'

section Entries

variable {i : Nat} (more : t.nodes < src.limits.maxResourceNodes)

include more

theorem readEntries_of_entry {raw target : Nat}
    (entry : src.entryAt? b.directory i = some (raw, target)) (rest : List Nat) :
    src.readEntries b (i :: rest) t = src.readEntries b rest (src.emit b raw target t.count) := by
  rw [Source.readEntries, if_neg (Int.not_le.2 more), entry]

theorem readEntries_of_outside (outside : src.entryAt? b.directory i = none) (rest : List Nat) :
    src.readEntries b (i :: rest) t = .ok (t.count.note (.resourceEntryOutside b.directory i)) := by
  rw [Source.readEntries, if_neg (Int.not_le.2 more), outside]

end Entries

/-- What a traversal came to when it went on, if it was not stopped. -/
theorem ended_bind {P : Traversal → Prop} {r : Except Traversal Traversal}
    {f : Traversal → Except Traversal Traversal} (first : P (ended r))
    (next : ∀ t, P t → P (ended (f t))) : P (ended (r.bind f)) := by
  cases r with
  | ok t => exact next t first
  | error t => exact first

/-! ## What is found -/

/-- A directory that the tree leads to, and the keys on the way. -/
inductive Source.Leads (src : Source) : Branch → Prop
  | root : Leads src ⟨0, []⟩
  | down {b c : Branch} (above : Leads src b) (there : c ∈ src.below b) : Leads src c

/-- The leaf of an entry `i` in the directory of a branch. Its keys are those on the way and the one
of the entry. -/
structure Source.LeafOf (src : Source) (entered : List Nat) (e : ResourceEntry) (b : Branch)
    (i raw target : Nat) : Prop where
  leads : src.Leads b
  entered : b.directory ∈ entered
  inside : i < src.entryCount b.directory
  entry : src.entryAt? b.directory i = some (raw, target)
  data : target < highBit
  path : b.path = [e.type, e.name]
  language : e.language? = (src.key raw).id?
  rva : src.data.u32? (src.base + target) = some e.rva
  size : src.data.u32? (src.base + target + 4) = some e.size
  codepage : src.data.u32? (src.base + target + 8) = some e.codepage
  offset : e.offset? = src.sections.offset? e.rva

/-- What holds of a traversal at any time. -/
structure Source.Sound (src : Source) (t : Traversal) : Prop where
  entered : t.entered.Nodup
  few : t.nodes ≤ src.limits.maxResourceNodes.toNat
  leaves : t.leaves.length ≤ t.nodes
  deep : t.leaves ≠ [] → 3 ≤ src.limits.maxResourceDepth
  each : ∀ e ∈ t.leaves, ∃ b i raw target, src.LeafOf t.entered e b i raw target

/-- A leaf has the keys of its pending directory and says what its data entry says. -/
theorem of_leaf?_eq_some {p : Pending} {key : ResourceKey} {target : Nat} {e : ResourceEntry}
    (found : src.leaf? p key target = some e) :
    (e.type = p.type ∧ e.name = p.name ∧ e.language? = key.id?) ∧
      src.data.u32? (src.base + target) = some e.rva ∧
      src.data.u32? (src.base + target + 4) = some e.size ∧
      src.data.u32? (src.base + target + 8) = some e.codepage ∧
      e.offset? = src.sections.offset? e.rva := by
  simp only [Source.leaf?, Option.bind_eq_bind, Option.bind_eq_some_iff] at found
  obtain ⟨rva, hr, size, hs, codepage, hc, made⟩ := found
  cases made
  exact ⟨⟨rfl, rfl, rfl⟩, hr, hs, hc, rfl⟩

namespace Source.Sound

theorem start : src.Sound {} where
  entered := .nil
  few := Nat.zero_le _
  leaves := Nat.le_refl _
  deep := fun h => absurd rfl h
  each := nofun

theorem note (h : src.Sound t) (p : Problem) : src.Sound (t.note p) := { h with }

theorem enter (h : src.Sound t) {d : Nat} (new : d ∉ t.entered) : src.Sound (t.enter d) :=
  { h with
    entered := List.nodup_cons.2 ⟨new, h.entered⟩
    each := fun e there => by
      obtain ⟨b, i, raw, target, leaf⟩ := h.each e there
      exact ⟨b, i, raw, target, { leaf with entered := List.mem_cons_of_mem d leaf.entered }⟩ }

theorem count (h : src.Sound t) (more : t.nodes < src.limits.maxResourceNodes.toNat) :
    src.Sound t.count :=
  { h with
    few := more
    leaves := Nat.le_succ_of_le h.leaves }

/-- A leaf is paid for with the entry that leads to it. -/
theorem find (h : src.Sound t) (more : t.nodes < src.limits.maxResourceNodes.toNat)
    (deep : 3 ≤ src.limits.maxResourceDepth) {e : ResourceEntry} {i raw target : Nat}
    (leaf : src.LeafOf t.entered e b i raw target) : src.Sound (t.count.find e) where
  entered := h.entered
  few := more
  leaves := by
    rw [Traversal.find, List.length_append]
    exact Nat.succ_le_succ h.leaves
  deep := fun _ => deep
  each e' there := by
    rcases List.mem_append.1 there with before | now
    · exact h.each e' before
    · cases List.mem_singleton.1 now
      exact ⟨b, i, raw, target, leaf⟩

theorem emit (h : src.Sound t) (more : t.nodes < src.limits.maxResourceNodes.toNat)
    (leads : src.Leads b) (entered : b.directory ∈ t.entered)
    (deep : (b.path.length : Int) < src.limits.maxResourceDepth) {i raw target : Nat}
    (inside : i < src.entryCount b.directory)
    (entry : src.entryAt? b.directory i = some (raw, target)) :
    src.Sound (src.emit b raw target t.count) := by
  unfold Source.emit
  split
  · exact h.count more
  next data =>
    split
    next type name path =>
      split
      next e found =>
        obtain ⟨⟨type_eq, name_eq, language⟩, rva, size, codepage, offset⟩ :=
          of_leaf?_eq_some found
        have keys : b.path = [e.type, e.name] := by rw [path, type_eq, name_eq]
        have three : 3 ≤ src.limits.maxResourceDepth := by
          rw [path] at deep
          exact deep
        exact h.find more three ⟨leads, entered, inside, entry, Nat.not_le.1 data, keys, language, rva,
          size, codepage, offset⟩
      · exact (h.count more).note _
    · exact (h.count more).note _

theorem readEntries (h : src.Sound t) (leads : src.Leads b) (entered : b.directory ∈ t.entered)
    (deep : (b.path.length : Int) < src.limits.maxResourceDepth) {indices : List Nat}
    (inside : ∀ i ∈ indices, i < src.entryCount b.directory) :
    src.Sound (ended (src.readEntries b indices t)) := by
  induction indices generalizing t with
  | nil => exact h
  | cons i rest ih =>
    rw [Source.readEntries]
    split
    · exact h.note _
    next more =>
      have more : t.nodes < src.limits.maxResourceNodes.toNat := by omega
      split
      · exact (h.count more).note _
      next raw target entry =>
        refine ih (h.emit more leads entered deep (inside i List.mem_cons_self) entry) ?_
          fun j later => inside j (List.mem_cons_of_mem i later)
        have kept : (src.emit b raw target t.count).entered = t.entered := by
          unfold Source.emit
          repeat' split
          all_goals rfl
        rw [kept]
        exact entered

theorem traverseAll (h : src.Sound t) {bs : List Branch}
    (each : ∀ b ∈ bs, ∀ t, src.Sound t → src.Sound (ended (src.traverse (src.levels b) b t))) :
    src.Sound (ended (src.traverseAll bs t)) := by
  induction bs generalizing t with
  | nil => exact h
  | cons b bs ih =>
    rw [Source.traverseAll, List.foldlM_cons]
    exact ended_bind (each b List.mem_cons_self t h)
      fun t' h' => ih h' fun c there => each c (List.mem_cons_of_mem b there)

theorem traverse {levels : Nat} (here : src.levels b = levels) (leads : src.Leads b)
    (h : src.Sound t) : src.Sound (ended (src.traverse levels b t)) := by
  induction levels generalizing b t with
  | zero =>
    rw [Source.traverse]
    split <;> exact h.note _
  | succ levels ih =>
    by_cases known : b.directory ∈ t.entered
    · rw [Source.traverse, if_pos known]
      exact h.note _
    by_cases room : src.data.holds (src.base + b.directory) directorySize
    · rw [traverse_succ here known room]
      have deep : (b.path.length : Int) < src.limits.maxResourceDepth := by
        unfold Source.levels at here
        omega
      refine ended_bind ((h.enter known).readEntries leads List.mem_cons_self deep
        fun i there => List.mem_range.1 there) fun t' h' => ?_
      refine h'.traverseAll fun c there t' h' => ?_
      have below := levels_of_mem_below there here
      rw [below]
      exact ih below (.down leads there) h'
    · rw [Source.traverse, if_neg known, if_neg room]
      exact (h.enter known).note _

end Source.Sound

/-- Whatever the bytes are, the traversal from the root is sound. -/
theorem sound_traversal (src : Source) : src.Sound src.traversal := by
  refine Source.Sound.start.traverseAll fun b there t h => ?_
  cases List.mem_singleton.1 there
  exact .traverse rfl .root h

/-! ## Bad branches -/

/-- The directory that a problem says is outside the buffer. -/
def lost? : Problem → Option Nat
  | .resourceDirectoryOutside d => some d
  | _ => none

/-- What a later problem becomes when a directory was lost before: it is met again. -/
def again (lost : Option Nat) : Problem → Problem
  | .resourceDirectoryOutside d =>
    if lost = some d then .resourceCycle d else .resourceDirectoryOutside d
  | .resourceTooDeep limit d => if lost = some d then .resourceCycle d else .resourceTooDeep limit d
  | p => p

/-- What is wrong with a branch that is not gone into. -/
def Source.badBranch? (src : Source) (b : Branch) (t : Traversal) : Option Problem :=
  if b.directory ∈ t.entered then some (.resourceCycle b.directory)
  else if src.limits.maxResourceDepth ≤ b.path.length then
    some (.resourceTooDeep src.limits.maxResourceDepth b.directory)
  else if src.data.holds (src.base + b.directory) directorySize then none
  else some (.resourceDirectoryOutside b.directory)

/-- What is wrong with a data entry: it stands above or below the languages, or leads outside the
buffer. -/
def Source.badEntry? (src : Source) (b : Branch) (i : Nat) : Option Problem := do
  let (raw, target) ← src.entryAt? b.directory i
  if highBit ≤ target then none
  else
    match b.path with
    | [type, name] =>
      if (src.leaf? ⟨b.directory, languageLevel, type, name⟩ (src.key raw) target).isSome then none
      else some (.resourceDataEntryOutside target)
    | _ => some (.resourceLeafAboveLanguage b.directory b.path.length)

/-- Two traversals have found the same and gone into the same, but that in the second one a directory
was lost. What they have noted since `ps` and `ps'` is the same, but for meeting that one again. -/
structure Abreast (lost : Option Nat) (ps ps' : List Problem) (t t' : Traversal) : Prop where
  leaves : t'.leaves = t.leaves
  nodes : t'.nodes = t.nodes
  entered : ∀ d, d ∈ t'.entered ↔ d ∈ t.entered ∨ lost = some d
  problems : ∃ qs, t.problems = ps ++ qs ∧ t'.problems = ps' ++ qs.map (again lost)

/-- Both traversals went on or both were stopped, and they are abreast. -/
inductive EndAbreast (lost : Option Nat) (ps ps' : List Problem) :
    Except Traversal Traversal → Except Traversal Traversal → Prop
  | ok {t t' : Traversal} (h : Abreast lost ps ps' t t') : EndAbreast lost ps ps' (.ok t) (.ok t')
  | error {t t' : Traversal} (h : Abreast lost ps ps' t t') :
      EndAbreast lost ps ps' (.error t) (.error t')

variable {lost : Option Nat} {ps ps' : List Problem} {t' : Traversal}

theorem EndAbreast.bind {r r' : Except Traversal Traversal}
    {f f' : Traversal → Except Traversal Traversal} (h : EndAbreast lost ps ps' r r')
    (next : ∀ t t', Abreast lost ps ps' t t' → EndAbreast lost ps ps' (f t) (f' t')) :
    EndAbreast lost ps ps' (r.bind f) (r'.bind f') := by
  cases h with
  | ok h => exact next _ _ h
  | error h => exact .error h

namespace Abreast

theorem note (h : Abreast lost ps ps' t t') (p : Problem) :
    Abreast lost ps ps' (t.note p) (t'.note (again lost p)) :=
  { h with
    problems := by
      obtain ⟨qs, before, before'⟩ := h.problems
      exact ⟨qs ++ [p], by simp [Traversal.note, before], by simp [Traversal.note, before']⟩ }

theorem enter (h : Abreast lost ps ps' t t') (d : Nat) :
    Abreast lost ps ps' (t.enter d) (t'.enter d) :=
  { h with
    entered := fun e => by
      simp only [Traversal.enter, List.mem_cons, h.entered e, or_assoc] }

theorem count (h : Abreast lost ps ps' t t') : Abreast lost ps ps' t.count t'.count :=
  { h with nodes := congrArg (· + 1) h.nodes }

theorem find (h : Abreast lost ps ps' t t') (e : ResourceEntry) :
    Abreast lost ps ps' (t.find e) (t'.find e) :=
  { h with leaves := congrArg (· ++ [e]) h.leaves }

theorem emit (h : Abreast lost ps ps' t t') (b : Branch) (raw target : Nat) :
    Abreast lost ps ps' (src.emit b raw target t) (src.emit b raw target t') := by
  unfold Source.emit
  split
  · exact h
  · split
    · split
      · exact h.find _
      · exact h.note _
    · exact h.note _

theorem readEntries (h : Abreast lost ps ps' t t') (b : Branch) (indices : List Nat) :
    EndAbreast lost ps ps' (src.readEntries b indices t) (src.readEntries b indices t') := by
  induction indices generalizing t t' with
  | nil => exact .ok h
  | cons i rest ih =>
    rw [Source.readEntries, Source.readEntries, h.nodes]
    split
    · exact .error (h.note _)
    · split
      · exact .ok (h.count.note _)
      · exact ih (h.count.emit b _ _)

theorem traverseAll (h : Abreast lost ps ps' t t') {bs : List Branch}
    (each : ∀ b ∈ bs, ∀ t t', Abreast lost ps ps' t t' →
      EndAbreast lost ps ps' (src.traverse (src.levels b) b t) (src.traverse (src.levels b) b t')) :
    EndAbreast lost ps ps' (src.traverseAll bs t) (src.traverseAll bs t') := by
  induction bs generalizing t t' with
  | nil => exact .ok h
  | cons b bs ih =>
    rw [Source.traverseAll, Source.traverseAll, List.foldlM_cons, List.foldlM_cons]
    exact (each b List.mem_cons_self t t' h).bind
      fun _ _ h' => ih h' fun c there => each c (List.mem_cons_of_mem b there)

/-- What was entered or lost before is met again. -/
theorem meet (outside : ∀ d, lost = some d → ¬ src.data.holds (src.base + d) directorySize)
    (h : Abreast lost ps ps' t t') (known' : b.directory ∈ t'.entered) (levels : Nat) :
    EndAbreast lost ps ps' (src.traverse levels b t) (src.traverse levels b t') := by
  by_cases known : b.directory ∈ t.entered
  · cases levels <;> rw [Source.traverse, Source.traverse, if_pos known, if_pos known'] <;>
      exact .ok (h.note (.resourceCycle b.directory))
  have same : lost = some b.directory := ((h.entered _).1 known').resolve_left known
  cases levels with
  | zero =>
    rw [Source.traverse, Source.traverse, if_neg known, if_pos known']
    have noted := h.note (.resourceTooDeep src.limits.maxResourceDepth b.directory)
    rw [again, if_pos same] at noted
    exact .ok noted
  | succ levels =>
    rw [Source.traverse, Source.traverse, if_neg known, if_pos known', if_neg (outside _ same)]
    have noted := h.note (.resourceDirectoryOutside b.directory)
    rw [again, if_pos same] at noted
    refine .ok { noted with entered := fun d => ?_ }
    simp only [Traversal.enter, Traversal.note, List.mem_cons, h.entered d, same, Option.some.injEq]
    tauto

theorem traverse (outside : ∀ d, lost = some d → ¬ src.data.holds (src.base + d) directorySize)
    {levels : Nat} (here : src.levels b = levels) (h : Abreast lost ps ps' t t') :
    EndAbreast lost ps ps' (src.traverse levels b t) (src.traverse levels b t') := by
  induction levels generalizing b t t' with
  | zero =>
    by_cases known' : b.directory ∈ t'.entered
    · exact h.meet outside known' 0
    obtain ⟨known, other⟩ := not_or.1 ((h.entered _).not.1 known')
    rw [Source.traverse, Source.traverse, if_neg known, if_neg known']
    have noted := h.note (.resourceTooDeep src.limits.maxResourceDepth b.directory)
    rw [again, if_neg other] at noted
    exact .ok noted
  | succ levels ih =>
    by_cases known' : b.directory ∈ t'.entered
    · exact h.meet outside known' _
    obtain ⟨known, other⟩ := not_or.1 ((h.entered _).not.1 known')
    by_cases room : src.data.holds (src.base + b.directory) directorySize
    · rw [traverse_succ here known room, traverse_succ here known' room]
      refine ((h.enter _).readEntries b _).bind fun t t' h => ?_
      refine h.traverseAll fun c there t t' h => ?_
      have below := levels_of_mem_below there here
      rw [below]
      exact ih below h
    · rw [Source.traverse, Source.traverse, if_neg known, if_neg known', if_neg room,
        if_neg room]
      have noted := (h.enter b.directory).note (.resourceDirectoryOutside b.directory)
      rw [again, if_neg other] at noted
      exact .ok noted

end Abreast

/-- One problem is noted and nothing else is lost: the same leaves are found, everything is stopped or
not as before, and what is noted later is the same, but for meeting again a directory that the problem
says is outside. -/
structure Pruned (t : Traversal) (p : Problem) (whole without : Except Traversal Traversal) :
    Prop where
  leaves : (ended whole).leaves = (ended without).leaves
  nodes : (ended whole).nodes = (ended without).nodes
  stopped : whole.isOk = without.isOk
  problems : ∃ later, (ended without).problems = t.problems ++ later ∧
    (ended whole).problems = t.problems ++ p :: later.map (again (lost? p))

theorem EndAbreast.pruned {p : Problem} {whole without : Except Traversal Traversal}
    (h : EndAbreast (lost? p) t.problems (t.problems ++ [p]) without whole) :
    Pruned t p whole without := by
  cases h with
  | ok h | error h =>
    refine ⟨h.leaves, h.nodes, rfl, ?_⟩
    obtain ⟨later, before, before'⟩ := h.problems
    exact ⟨later, before, by simpa [Traversal.ended] using before'⟩

/-- A problem that loses no directory puts nothing else between two traversals. -/
theorem abreast_note (t : Traversal) (p : Problem) :
    Abreast none t.problems (t.problems ++ [p]) t (t.note p) :=
  ⟨rfl, rfl, by simp [Traversal.note], [], by simp, by simp [Traversal.note]⟩

/-- A bad branch is one problem. -/
theorem traverse_badBranch {p : Problem} (bad : src.badBranch? b t = some p) :
    ∃ t', src.traverse (src.levels b) b t = .ok t' ∧
      Abreast (lost? p) t.problems (t.problems ++ [p]) t t' ∧
      ∀ d, lost? p = some d → ¬ src.data.holds (src.base + d) directorySize := by
  unfold Source.badBranch? at bad
  split at bad
  next known =>
    cases bad
    refine ⟨_, ?_, abreast_note t _, nofun⟩
    cases src.levels b <;> rw [Source.traverse, if_pos known]
  next new =>
    split at bad
    next deep =>
      cases bad
      refine ⟨_, ?_, abreast_note t _, nofun⟩
      have bottom : src.levels b = 0 := by
        unfold Source.levels
        omega
      rw [bottom, Source.traverse, if_neg new]
    next shallow =>
      split at bad
      · cases bad
      next outside =>
        cases bad
        refine ⟨(t.enter b.directory).note (.resourceDirectoryOutside b.directory), ?_, ?_, ?_⟩
        · obtain ⟨levels, here⟩ : ∃ levels, src.levels b = levels + 1 :=
            ⟨src.levels b - 1, by unfold Source.levels; omega⟩
          rw [here, Source.traverse, if_neg new, if_neg outside]
        · refine ⟨rfl, rfl, fun d => ?_, [], by simp, by simp [Traversal.note, Traversal.enter]⟩
          simp [Traversal.note, Traversal.enter, lost?, or_comm, eq_comm]
        · rintro d ⟨⟩
          exact outside

/-- A bad branch is pruned: what comes after it is traversed as without it. -/
theorem pruned_branch {p : Problem} (bad : src.badBranch? b t = some p) (rest : List Branch) :
    Pruned t p (src.traverseAll (b :: rest) t) (src.traverseAll rest t) := by
  obtain ⟨t', gone, abreast, outside⟩ := traverse_badBranch bad
  have whole : src.traverseAll (b :: rest) t = src.traverseAll rest t' := by
    rw [Source.traverseAll, List.foldlM_cons, gone]
    rfl
  rw [whole]
  exact (abreast.traverseAll fun _ _ _ _ h => h.traverse outside rfl).pruned

/-- A bad data entry is one problem. -/
theorem emit_badEntry {p : Problem} {i : Nat} (bad : src.badEntry? b i = some p) :
    ∃ raw target, src.entryAt? b.directory i = some (raw, target) ∧
      (∀ t, src.emit b raw target t = t.note p) ∧ lost? p = none := by
  unfold Source.badEntry? at bad
  cases entry : src.entryAt? b.directory i with
  | none => rw [entry] at bad; cases bad
  | some e =>
    obtain ⟨raw, target⟩ := e
    simp only [entry, Option.bind_eq_bind, Option.bind_some] at bad
    refine ⟨raw, target, rfl, ?_⟩
    unfold Source.emit
    split at bad
    · cases bad
    next data =>
      simp only [if_neg data]
      split at bad
      next type name path =>
        split at bad
        · cases bad
        next unreadable =>
          cases bad
          rw [Option.not_isSome_iff_eq_none] at unreadable
          exact ⟨fun t => by rw [unreadable], rfl⟩
      · cases bad
        exact ⟨fun t => rfl, rfl⟩

/-- Traversals that are abreast stay so, if no directory was lost. -/
theorem Abreast.goOn (h : Abreast none ps ps' t t') (rest : List Branch) :
    EndAbreast none ps ps' (src.traverseAll rest t) (src.traverseAll rest t') := by
  have inside : ∀ d, none = some d → ¬ src.data.holds (src.base + d) directorySize := nofun
  exact h.traverseAll fun _ _ _ _ h => h.traverse inside rfl

/-- A bad data entry is skipped: it counts as an entry, and the rest of its directory and whatever
comes after it are traversed as without it. -/
theorem pruned_entry {p : Problem} {i : Nat} (bad : src.badEntry? b i = some p)
    (more : t.nodes < src.limits.maxResourceNodes) (indices : List Nat) (rest : List Branch) :
    Pruned t p ((src.readEntries b (i :: indices) t).bind (src.traverseAll rest))
      ((src.readEntries b indices t.count).bind (src.traverseAll rest)) := by
  obtain ⟨raw, target, entry, noted, kept⟩ := emit_badEntry bad
  rw [readEntries_of_entry more entry, noted]
  apply EndAbreast.pruned
  rw [kept]
  exact ((abreast_note t.count p).readEntries b indices).bind fun t t' h => h.goOn rest

/-- Behind an entry that is outside the buffer all others are. -/
theorem entryAt?_eq_none_of_le {directory i j : Nat} (outside : src.entryAt? directory i = none)
    (behind : i ≤ j) : src.entryAt? directory j = none := by
  unfold Source.entryAt? at outside ⊢
  simp only [Bytes.u32?, Bytes.number?, Bytes.holds, entrySize, Option.bind_eq_bind] at outside ⊢
  by_cases room : src.base + directory + directorySize + 8 * i + 4 + 4 ≤ src.data.size
  · have room' : src.base + directory + directorySize + 8 * i + 4 ≤ src.data.size := by omega
    simp [room, room'] at outside
  · have short : ¬ src.base + directory + directorySize + 8 * j + 4 + 4 ≤ src.data.size := by omega
    simp [short]

/-- An entry that is outside the buffer ends its directory, where no other entry is lost with it, and
whatever comes after is traversed as without it. -/
theorem pruned_outside {i : Nat} (outside : src.entryAt? b.directory i = none)
    (more : t.nodes < src.limits.maxResourceNodes) (indices : List Nat) (rest : List Branch) :
    Pruned t (.resourceEntryOutside b.directory i)
        ((src.readEntries b (i :: indices) t).bind (src.traverseAll rest))
        (src.traverseAll rest t.count) ∧
      ∀ j, i ≤ j → src.entryAt? b.directory j = none := by
  refine ⟨?_, fun j behind => entryAt?_eq_none_of_le outside behind⟩
  rw [readEntries_of_outside more outside]
  apply EndAbreast.pruned
  exact (abreast_note t.count _).goOn rest

end PeFacts.ResourceIndex
