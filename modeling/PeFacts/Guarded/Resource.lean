import PeFacts.Guarded.Header
import PeFacts.Guarded.Section
import PeFacts.Guarded.Text
import PeFacts.Resource

/-!
# Guarded reading of resources

The tree of resources is walked with a list of directories still to visit, which may lead back into
one another. The budget bounds the walk all the same: a directory takes one off the list and puts no
more on it than it takes off the budget (`visit_bound`), so the fuel that the walk starts with does
not run out, and reading the resources comes to an end: `yields_resources`.
-/

namespace PeFacts.Guarded

open ResourceIndex

/-- The key that an entry holds. -/
def resourceKey (src : Source) (raw : Nat) : Guarded ResourceKey := do
  if highBit ≤ raw then
    let name? ← utf16Counted? src.data (some (src.base + raw % highBit)) src.limits.maxNameLength
    return ⟨none, name?⟩
  else return ⟨some (raw % 0x10000), none⟩

/-- The leaf whose data entry is at `target`. -/
def resourceLeaf? (src : Source) (p : Pending) (key : ResourceKey) (target : Nat) :
    Guarded (Option ResourceEntry) := do
  let off := src.base + target
  let rva? ← number? src.data off 4
  let size? ← number? src.data (off + 4) 4
  let codepage? ← number? src.data (off + 8) 4
  match rva?, size?, codepage? with
  | some rva, some size, some codepage =>
    let offset? ← locate src.sections (some rva)
    return some {
      type := p.type, name := p.name, language? := key.id?, rva, size, codepage, offset? }
  | _, _, _ => return none

/-- Reads the entry whose key is `raw` and which leads to `target`. -/
def resourceEntry (src : Source) (p : Pending) (raw target : Nat) (s : Scan) : Guarded Scan := do
  let key ← resourceKey src raw
  if highBit ≤ target then
    return { s with below := s.below.push (p.below key (target % highBit)) }
  if p.level ≠ languageLevel then
    return { s with walk := s.walk.note (.resourceLeafAboveLanguage p.directory p.level) }
  match ← resourceLeaf? src p key target with
  | none => return { s with walk := s.walk.note (.resourceDataEntryOutside target) }
  | some leaf =>
    return { s with walk := { s.walk with toReading := s.walk.toReading.keep leaf } }

/-- Reads `left` entries of a directory from `off` on. -/
def resourceEntriesFrom (src : Source) (p : Pending) (index off : Nat) :
    (left : Nat) → Scan → Guarded Scan
  | 0, s => return s
  | left + 1, s => do
    if s.walk.budget = 0 then
      return { s with
        walk := s.walk.note (.tooManyResourceNodes src.limits.maxResourceNodes)
        exhausted := true }
    let s := { s with walk := { s.walk with budget := s.walk.budget - 1 } }
    let raw? ← number? src.data off 4
    let target? ← number? src.data (off + 4) 4
    match raw?, target? with
    | some raw, some target =>
      resourceEntriesFrom src p (index + 1) (off + entrySize) left
        (← resourceEntry src p raw target s)
    | _, _ => return { s with walk := s.walk.note (.resourceEntryOutside p.directory index) }

/-- Visits one directory. -/
def visit (src : Source) (p : Pending) (w : Walk) : Guarded Scan := do
  if w.entered.contains p.directory then return { walk := w.note (.resourceCycle p.directory) }
  if (p.level : Int) ≥ src.limits.maxResourceDepth then
    return { walk := w.note (.resourceTooDeep src.limits.maxResourceDepth p.directory) }
  let w := { w with entered := p.directory :: w.entered }
  let off := src.base + p.directory
  if !src.data.holds off directorySize then
    return { walk := w.note (.resourceDirectoryOutside p.directory) }
  let named ← numberOrZero src.data (off + 12) 2
  let numbered ← numberOrZero src.data (off + 14) 2
  resourceEntriesFrom src p 0 (off + directorySize) (named + numbered) { walk := w }

/-- Visits the directories of a list, each followed by those below it. -/
def visitAll (src : Source) : (fuel : Nat) → List Pending → Walk → Guarded Walk
  | _, [], w => return w
  | 0, _ :: _, _ => throw .endless
  | fuel + 1, p :: rest, w => do
    let s ← visit src p w
    if s.exhausted then return s.walk
    visitAll src fuel (s.below.toList ++ rest) s.walk

/-- The resources at an address, with the problems met. -/
def resources (data : Bytes) (t : SectionTable) (limits : Limits) (rva : Nat) :
    Guarded (ResourceIndex × List Problem) := do
  match (← locate t (some rva)).filter (data.holds · directorySize) with
  | none => return ({}, [.resourcesUnmappable rva])
  | some base =>
    let budget := limits.maxResourceNodes.toNat
    let walk ← visitAll ⟨data, t, limits, base⟩ (budget + 2)
      [{ directory := 0, level := typeLevel }] { budget }
    let timestamp? ← number? data (base + 4) 4
    let majorVersion? ← number? data (base + 8) 2
    let minorVersion? ← number? data (base + 10) 2
    return (
      { entries := walk.found.toList, timestamp?, majorVersion?, minorVersion? },
      walk.problems.toList)

variable (src : Source) (p : Pending)

theorem resourceKey_eq (raw : Nat) : resourceKey src raw = pure (src.key raw) := by
  simp only [resourceKey, Source.key, utf16Counted?_eq, Option.bind_some, pure_bind]
  split <;> rfl

theorem yields_resourceLeaf (key : ResourceKey) (target : Nat) :
    Yields src.sections (resourceLeaf? src p key target) (src.leaf? p key target) := by
  simp only [resourceLeaf?, Source.leaf?, number?_eq, pure_bind, Bytes.u32?, Option.bind_eq_bind]
  cases src.data.number? (src.base + target) 4 with
  | none => exact .pure _
  | some rva =>
    cases src.data.number? (src.base + target + 4) 4 with
    | none => exact .pure _
    | some size =>
      cases src.data.number? (src.base + target + 8) 4 with
      | none => exact .pure _
      | some codepage => exact (yields_locate src.sections (some rva)).bind (.pure _)

theorem yields_resourceEntry (raw target : Nat) (s : Scan) :
    Yields src.sections (resourceEntry src p raw target s) (src.entry p raw target s) := by
  simp only [resourceEntry, Source.entry, resourceKey_eq, pure_bind]
  split
  · exact .pure _
  · split
    · exact .pure _
    · refine (yields_resourceLeaf src p _ target).bind ?_
      cases src.leaf? p (src.key raw) target <;> exact .pure _

theorem yields_resourceEntriesFrom (index off left : Nat) (s : Scan) :
    Yields src.sections (resourceEntriesFrom src p index off left s)
      (src.entriesFrom p index off left s) := by
  induction left generalizing index off s with
  | zero => exact .pure _
  | succ left ih =>
    simp only [resourceEntriesFrom, Source.entriesFrom, number?_eq, pure_bind, Bytes.u32?]
    split
    · exact .pure _
    · cases src.data.number? off 4 with
      | none => exact .pure _
      | some raw =>
        cases src.data.number? (off + 4) 4 with
        | none => exact .pure _
        | some target => exact (yields_resourceEntry src p raw target _).bind (ih _ _ _)

theorem yields_visit (w : Walk) :
    Yields src.sections (visit src p w) (src.visit p w) := by
  simp only [visit, Source.visit]
  split
  · exact .pure _
  · split
    · exact .pure _
    · by_cases room : src.base + p.directory + directorySize ≤ src.data.size
      · have fields : src.base + p.directory + 16 ≤ src.data.size := room
        simp (disch := omega) only [Bytes.holds_iff.2 room, numberOrZero_eq, pure_bind,
          Bool.not_true, Bool.false_eq_true, if_false]
        exact yields_resourceEntriesFrom src p _ _ _ _
      · have short : src.data.holds (src.base + p.directory) directorySize = false := by
          simpa [Bytes.holds] using room
        simp only [short]
        exact .pure _

/-! ## The walk comes to an end -/

/-- What a scan may still lead to: the directories below and the entries that may be read. -/
def ahead (s : Scan) : Nat := s.below.size + s.walk.budget

theorem entry_bound (raw target : Nat) (s : Scan) :
    ahead (src.entry p raw target s) ≤ ahead s + 1 := by
  simp only [Source.entry, ahead]
  split
  · simp only [Array.size_push]
    omega
  · split
    · exact Nat.le_succ _
    · cases src.leaf? p (src.key raw) target <;> exact Nat.le_succ _

theorem entriesFrom_bound (index off left : Nat) (s : Scan) :
    ahead (src.entriesFrom p index off left s) ≤ ahead s := by
  induction left generalizing index off s with
  | zero => exact Nat.le_refl _
  | succ left ih =>
    rw [Source.entriesFrom]
    split
    · exact Nat.le_refl _
    · next more =>
      dsimp only
      cases src.data.u32? off with
      | none => exact Nat.add_le_add_left (Nat.sub_le _ _) _
      | some raw =>
        cases src.data.u32? (off + 4) with
        | none => exact Nat.add_le_add_left (Nat.sub_le _ _) _
        | some target =>
          -- The entry is paid for before it is read.
          refine Nat.le_trans (ih _ _ _) (Nat.le_trans (entry_bound src p raw target _) ?_)
          simp only [ahead]
          omega

/-- A visit puts no more directories on the list than it takes off the budget. -/
theorem visit_bound (w : Walk) : ahead (src.visit p w) ≤ w.budget := by
  have nothing_below (w' : Walk) (h : w'.budget = w.budget) :
      ahead { walk := w' } ≤ w.budget := by
    simp [ahead, h]
  simp only [Source.visit]
  split
  · exact nothing_below _ rfl
  · split
    · exact nothing_below _ rfl
    · split
      · exact nothing_below _ rfl
      · exact Nat.le_trans (entriesFrom_bound src p _ _ _ _) (nothing_below _ rfl)

/-- Fuel for the list and for the budget that is left does not run out. -/
theorem yields_visitAll {fuel : Nat} {pending : List Pending} {w : Walk}
    (enough : pending.length + w.budget ≤ fuel) :
    Yields src.sections (visitAll src fuel pending w) (src.visitAll fuel pending w) := by
  induction fuel generalizing pending w with
  | zero =>
    have done : pending = [] := List.eq_nil_of_length_eq_zero (by omega)
    subst done
    exact .pure _
  | succ fuel ih =>
    cases pending with
    | nil => exact .pure _
    | cons p rest =>
      refine (yields_visit src p w).bind ?_
      rw [Source.visitAll]
      split
      · exact .pure _
      · refine ih ?_
        have bound := visit_bound src p w
        simp only [ahead] at bound
        simp only [List.length_append, Array.length_toList, List.length_cons] at enough ⊢
        omega

/-- Reading the resources leaves the domain of no operation and comes to an end. -/
theorem yields_resources (data : Bytes) (t : SectionTable) (limits : Limits) (rva : Nat) :
    Yields t (resources data t limits rva) (ResourceIndex.read data t limits rva) := by
  refine (yields_locate t (some rva)).bind ?_
  rw [Option.bind_some, ResourceIndex.read]
  cases (t.offset? rva).filter (data.holds · directorySize) with
  | none => exact .pure _
  | some base =>
    simp only [number?_eq, pure_bind, Bytes.u32?, Bytes.u16?]
    refine Yields.bind (yields_visitAll ⟨data, t, limits, base⟩ ?_) (.pure _)
    simp only [List.length_singleton]
    omega

end PeFacts.Guarded
