import PeFacts.Guarded
import PeFacts.Reading
import PeFacts.Section

/-!
# Guarded reading of sections

The section headers are read field by field, and the position of an address is looked up once and
remembered (`locate`). `Yields t x a` says that `x` comes to `a` whatever is remembered, as long as
only positions in the table `t` are; it is how every reader of a directory is shown to leave the
domain of no operation.
-/

namespace PeFacts.Guarded

variable {α β : Type}

/-- Reads section headers from `off` on, as long as `left` allows. -/
def sectionsFrom (data : Bytes) (index off : Nat) :
    (left : Nat) → Reading Section → Guarded (Reading Section)
  | 0, r => return r
  | left + 1, r => do
    if !data.holds off Section.headerSize then
      return r.report (.sectionHeaderTruncated index off)
    let rawSize ← number data (off + 16) 4
    let rawOffset ← number data (off + 20) 4
    let s : Section := {
      index, rawSize, rawOffset
      name := Section.nameOf (data.extract off (off + 8))
      virtualSize := ← number data (off + 8) 4
      virtualAddress := ← number data (off + 12) 4
      characteristics := ← number data (off + 36) 4
      rawInBounds := (Address.add32? rawOffset rawSize).any (· ≤ data.size) }
    sectionsFrom data (index + 1) (off + Section.headerSize) left (r.keep s)

/-- The section headers that the headers announce, at most `limit` of them. -/
def sections (data : Bytes) (h : Header) (limit : Int) :
    Guarded (List Section × List Problem) := do
  let clamped : Bool := (h.numberOfSections : Int) > limit
  let r ← sectionsFrom data 0 h.sectionTableOffset
    (if clamped then limit.toNat else h.numberOfSections)
    { problems := if clamped then #[.sectionCountClamped h.numberOfSections limit] else #[] }
  return (r.found.toList, r.problems.toList)

/-- The position of an address that may be missing. What has been looked up is remembered. -/
def locate (t : SectionTable) (rva? : Option Nat) : Guarded (Option Nat) :=
  match rva? with
  | none => return none
  | some rva => do
    match (← get).get? rva with
    | some off? => return off?
    | none =>
      let off? := t.offset? rva
      modify fun memo => memo.insert rva off?
      return off?

theorem sectionsFrom_eq (data : Bytes) (index off left : Nat) (r : Reading Section) :
    sectionsFrom data index off left r = pure
      { found := r.found ++ (Section.readFrom data index off left).1
        problems := r.problems ++ (Section.readFrom data index off left).2 } := by
  induction left generalizing index off r with
  | zero => simp [sectionsFrom, Section.readFrom]
  | succ left ih =>
    by_cases room : off + Section.headerSize ≤ data.size
    · have fields : off + 40 ≤ data.size := room
      simp (disch := omega) only [sectionsFrom, Section.readFrom, Bytes.holds_iff.2 room,
        number_eq, pure_bind, ih, if_true, Bool.not_true, Bool.false_eq_true, if_false]
      simp [Reading.keep, Section.decode]
    · simp [sectionsFrom, Section.readFrom, room, Reading.report]

/-- Reading the sections leaves the domain of no operation. -/
theorem sections_eq (data : Bytes) (h : Header) (limit : Int) :
    sections data h limit = pure (Section.readAll data h limit) := by
  by_cases clamped : (h.numberOfSections : Int) > limit <;>
    simp [sections, Section.readAll, sectionsFrom_eq, clamped]

/-! ## Remembered positions -/

/-- A memo that holds nothing but positions of addresses in `t`. -/
def Remembers (t : SectionTable) (memo : Memo (Option Nat)) : Prop :=
  ∀ rva off?, memo.get? rva = some off? → off? = t.offset? rva

/-- `x` comes to `a` from every memo of positions in `t`, and leaves one behind. -/
def Yields (t : SectionTable) (x : Guarded α) (a : α) : Prop :=
  ∀ memo, Remembers t memo → ∃ after, x.run.run memo = (.ok a, after) ∧ Remembers t after

variable {t : SectionTable}

theorem remembers_empty (t : SectionTable) : Remembers t .empty := by
  intro rva off? h
  simp at h

theorem Remembers.insert {memo : Memo (Option Nat)} (h : Remembers t memo) (rva : Nat) :
    Remembers t (memo.insert rva (t.offset? rva)) := by
  intro k off? hk
  rw [Memo.get?_insert] at hk
  split at hk
  next same =>
    subst same
    exact (Option.some.inj hk).symm
  next other => exact h k off? hk

theorem Yields.pure (a : α) : Yields t (Pure.pure a) a :=
  fun memo h => ⟨memo, rfl, h⟩

theorem Yields.bind {x : Guarded α} {f : α → Guarded β} {a : α} {b : β} (hx : Yields t x a)
    (hf : Yields t (f a) b) : Yields t (x >>= f) b := by
  intro memo h
  obtain ⟨mid, run, hm⟩ := hx memo h
  obtain ⟨after, run', ha⟩ := hf mid hm
  refine ⟨after, ?_, ha⟩
  have step : (x >>= f).run.run memo = (f a).run.run mid := by
    simp only [ExceptT.run_bind, StateT.run_bind]
    rw [run]
    rfl
  exact step.trans run'

theorem run_locate (t : SectionTable) (rva : Nat) (memo : Memo (Option Nat)) :
    (locate t (some rva)).run.run memo =
      match memo.get? rva with
      | some off? => (.ok off?, memo)
      | none => (.ok (t.offset? rva), memo.insert rva (t.offset? rva)) := by
  have start : (locate t (some rva)).run.run memo = (match memo.get? rva with
      | some off? => (return off? : Guarded (Option Nat))
      | none => do
        modify fun known : Memo (Option Nat) => known.insert rva (t.offset? rva)
        return t.offset? rva).run.run memo := rfl
  rw [start]
  cases memo.get? rva <;> rfl

/-- Looking an address up gives its position, whether or not it was remembered. -/
theorem yields_locate (t : SectionTable) (rva? : Option Nat) :
    Yields t (locate t rva?) (rva?.bind t.offset?) := by
  intro memo h
  cases rva? with
  | none => exact ⟨memo, rfl, h⟩
  | some rva =>
    rw [run_locate, Option.bind_some]
    cases known : memo.get? rva with
    | some off? => exact ⟨memo, by rw [h rva off? known], h⟩
    | none => exact ⟨_, rfl, h.insert rva⟩

end PeFacts.Guarded
