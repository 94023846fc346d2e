import PeFacts.Debug
import PeFacts.Guarded.Section
import PeFacts.Guarded.Text

/-!
# Guarded reading of the debug directory

The position of a record may be missing, and then so is the record: `yields_pdbPath`.
-/

namespace PeFacts.Guarded

open Debug

/-- The path of the CodeView record at a position that may be missing. -/
def codeViewPath? (data : Bytes) (off? : Option Nat) (maxLength : Int) :
    Guarded (Option String) := do
  let letters? := off?.bind fun off => data.span? off 4
  if letters? = some #[0x52, 0x53, 0x44, 0x53] then
    cString? data (some ((← given off?) + 24)) maxLength
  else if letters? = some #[0x4E, 0x42, 0x31, 0x30] then
    cString? data (some ((← given off?) + 16)) maxLength
  else return none

/-- Reads `left` entries from `off` on, up to the first usable path. -/
def pdbPathFrom (data : Bytes) (mapped : Bool) (maxLength : Int) (index off : Nat) :
    (left : Nat) → Guarded (Option String × List Problem)
  | 0 => return (none, [])
  | left + 1 => do
    match ← number? data (off + 12) 4 with
    | none => return (none, [.debugDirectoryTruncated index])
    | some type =>
      if type ≠ codeView then
        pdbPathFrom data mapped maxLength (index + 1) (off + entrySize) left
      else
        let record? ← number? data (if mapped then off + 20 else off + 24) 4
        match (← codeViewPath? data record? maxLength).filter fun path => !path.isEmpty with
        | some path => return (some path, [])
        | none => pdbPathFrom data mapped maxLength (index + 1) (off + entrySize) left

/-- The path of the program database, with the problems met. -/
def pdbPath (data : Bytes) (t : SectionTable) (directory : DataDirectory) (maxLength : Int) :
    Guarded (Option String × List Problem) := do
  match ← locate t (some directory.address) with
  | none => return (none, [.debugUnmappable directory.address])
  | some off =>
    pdbPathFrom data t.mapped maxLength 0 off (min (directory.size / entrySize) maxEntries)

variable {data : Bytes}

theorem span?_eq_some_iff_matchesAt {needle : Bytes} {off : Nat} :
    data.span? off needle.size = some needle ↔ data.matchesAt needle off = true := by
  simp [Bytes.span?_eq_some_iff, Bytes.matchesAt]

/-- Where the letters of a record stand, its position is there. -/
theorem codeViewPath?_eq (off? : Option Nat) (maxLength : Int) :
    codeViewPath? data off? maxLength = pure (off?.bind fun off =>
      (pathOffset? data off).bind fun pathOffset => data.cString? pathOffset maxLength) := by
  cases off? with
  | none => rfl
  | some off =>
    have rsds : data.span? off 4 = some #[0x52, 0x53, 0x44, 0x53] ↔
        data.matchesAt #[0x52, 0x53, 0x44, 0x53] off = true :=
      @span?_eq_some_iff_matchesAt data #[0x52, 0x53, 0x44, 0x53] off
    have nb10 : data.span? off 4 = some #[0x4E, 0x42, 0x31, 0x30] ↔
        data.matchesAt #[0x4E, 0x42, 0x31, 0x30] off = true :=
      @span?_eq_some_iff_matchesAt data #[0x4E, 0x42, 0x31, 0x30] off
    simp only [codeViewPath?, Option.bind_some, rsds, nb10, given_some, pure_bind, pathOffset?]
    split
    · rfl
    · split <;> rfl

theorem path?_eq (off : Nat) (maxLength : Int) :
    path? data off maxLength = ((pathOffset? data off).bind fun pathOffset =>
      data.cString? pathOffset maxLength).filter fun path => !path.isEmpty := by
  unfold path?
  cases pathOffset? data off with
  | none => rfl
  | some pathOffset =>
    simp only [Option.bind_eq_bind, Option.bind_some]
    cases data.cString? pathOffset maxLength with
    | none => rfl
    | some path => cases h : path.isEmpty <;> simp only [Option.bind_some, Option.filter, h] <;> rfl

theorem pdbPathFrom_eq (mapped : Bool) (maxLength : Int) (index off left : Nat) :
    pdbPathFrom data mapped maxLength index off left =
      pure (pathFrom data mapped maxLength index off left) := by
  induction left generalizing index off with
  | zero => rfl
  | succ left ih =>
    simp only [pdbPathFrom, pathFrom, number?_eq, pure_bind, Bytes.u32?, codeViewPath?_eq, ih,
      recordOffset?]
    cases data.number? (off + 12) 4 with
    | none => rfl
    | some type =>
      dsimp only
      by_cases code : type = codeView
      · have same : (data.number? (if mapped then off + 20 else off + 24) 4).bind
            (path? data · maxLength) =
            ((data.number? (if mapped then off + 20 else off + 24) 4).bind fun off =>
              (pathOffset? data off).bind fun pathOffset => data.cString? pathOffset maxLength).filter
              fun path => !path.isEmpty := by
          cases data.number? (if mapped then off + 20 else off + 24) 4 with
          | none => rfl
          | some record => exact path?_eq record maxLength
        rw [if_neg (fun other => other code), if_pos code, same]
        generalize Option.filter _ _ = path?
        cases path? <;> rfl
      · rw [if_pos code, if_neg code]

/-- Reading the debug directory leaves the domain of no operation. -/
theorem yields_pdbPath (t : SectionTable) (directory : DataDirectory) (maxLength : Int) :
    Yields t (pdbPath data t directory maxLength) (Debug.pdbPath data t directory maxLength) := by
  refine (yields_locate t _).bind ?_
  rw [Option.bind_some, Debug.pdbPath]
  cases t.offset? directory.address with
  | none => exact .pure _
  | some off =>
    simp only [pdbPathFrom_eq]
    exact .pure _

end PeFacts.Guarded
