import PeFacts.Guarded.Text
import PeFacts.Resource

/-!
# Guarded reading of version information

Blocks stand side by side, each six bytes long or longer, and inside one another, no deeper than
the nesting bound. So neither the loop over siblings nor the recursion into blocks goes on forever:
`siblingBlocks_eq` and `nestedBlocks_eq`.
-/

namespace PeFacts.Guarded

open VersionInfo

/-- Calls of one function that may be nested. -/
def maxFrames : Nat := 100

/-- The block at `off`, which must end at `limit` or before. -/
def versionBlock? (data : Bytes) (off limit : Nat) (maxKeyChars : Int) :
    Guarded (Option Block) := do
  if off + 6 > limit then return none
  let length? ← number? data off 2
  let valueLength? ← number? data (off + 2) 2
  let type? ← number? data (off + 4) 2
  match length?, valueLength?, type? with
  | some length, some valueLength, some type =>
    if length < 6 || off + length > limit then return none
    let key? ← utf16ZString? data (some (off + 6)) maxKeyChars (some ((off + length : Nat) : Int))
    return key?.map fun (key, taken) =>
      ⟨valueLength, type == 1, key, off + 6 + taken, off + length⟩
  | _, _, _ => return none

/-- Reads the blocks side by side from `off` up to `stop`; `inside` reads what a block holds. -/
def siblingBlocks (data : Bytes) (bounds : Bounds) (inside : Nat → Nat → Pairs → Guarded Pairs)
    (stop : Nat) : (fuel off : Nat) → Pairs → Guarded Pairs
  | 0, _, _ => throw .endless
  | fuel + 1, off, pairs => do
    match ← versionBlock? data off stop bounds.maxKeyChars with
    | none => return pairs
    | some b =>
      let pairs := keepValue data bounds b pairs
      let pairs ←
        if b.childrenOffset < b.stop then inside b.childrenOffset b.stop pairs else pure pairs
      siblingBlocks data bounds inside stop fuel (Address.align4 b.stop) pairs

/-- Reads the blocks between `off` and `stop`, which are `depth` deep. -/
def nestedBlocks (data : Bytes) (bounds : Bounds) :
    (frames depth off stop : Nat) → Pairs → Guarded Pairs
  | 0, _, _, _, _ => throw .endless
  | frames + 1, depth, off, stop, pairs =>
    if depth > maxNesting then return pairs.report (.versionTooDeep depth)
    else siblingBlocks data bounds (nestedBlocks data bounds frames (depth + 1)) stop (stop + 1)
      (Address.align4 off) pairs

/-- The pairs of version information, sorted by key, with the problems met. -/
def versionPairs (data : Bytes) (bounds : Bounds := {}) :
    Guarded (List (String × String) × List Problem) := do
  match ← versionBlock? data 0 data.size bounds.maxKeyChars with
  | none => return ([], [.versionRootUnreadable])
  | some root =>
    if root.key ≠ "VS_VERSION_INFO" then return ([], [.versionRootKey root.key])
    if root.childrenOffset < root.stop then
      let pairs ← nestedBlocks data bounds maxFrames 0 root.childrenOffset root.stop {}
      return (sortPairs pairs.found.toList, pairs.problems.toList)
    return ([], [])

/-- The version information among the resources, with the problems met. -/
def versionInfo (data : Bytes) (index : ResourceIndex) (limit : Int) :
    Guarded (List (String × String) × List Problem) := do
  match index.firstOfType? versionResource with
  | none => return ([], [])
  | some leaf =>
    if leaf.size = 0 then return ([], [])
    match leaf.offset? with
    | none => return ([], [.resourceDataUnmappable leaf.rva])
    | some off =>
      let size : Int := min leaf.size limit
      let blob := data.clamped off size.toNat
      let before :=
        (if (leaf.size : Int) > limit then [.versionInfoTooLarge leaf.size limit] else []) ++
        (if (blob.size : Int) < size then [.resourceDataTruncated off size] else [])
      let (pairs, problems) ← versionPairs blob
      return (pairs, before ++ problems)

variable {data : Bytes} {bounds : Bounds}

theorem versionBlock?_eq (data : Bytes) (off limit : Nat) (maxKeyChars : Int) :
    versionBlock? data off limit maxKeyChars = pure (block? data off limit maxKeyChars) := by
  simp only [versionBlock?, block?, number?_eq, utf16ZString?_eq, pure_bind, Bytes.u16?,
    Option.bind_eq_bind, Option.bind_some]
  split
  · rfl
  · cases data.number? off 2 with
    | none => rfl
    | some length =>
      cases data.number? (off + 2) 2 with
      | none => rfl
      | some valueLength =>
        cases data.number? (off + 4) 2 with
        | none => rfl
        | some type =>
          simp only [Option.bind_some]
          split
          · rfl
          · cases data.utf16ZString? (off + 6) maxKeyChars (some ((off + length : Nat) : Int)) <;> rfl

/-- A block takes six bytes or more of those before `limit`. -/
theorem block?_bounds {off limit : Nat} {maxKeyChars : Int} {b : Block}
    (h : block? data off limit maxKeyChars = some b) : off + 6 ≤ b.stop ∧ b.stop ≤ limit := by
  unfold block? at h
  split at h
  · cases h
  · obtain ⟨length, -, h⟩ := Option.bind_eq_some_iff.1 h
    obtain ⟨valueLength, -, h⟩ := Option.bind_eq_some_iff.1 h
    obtain ⟨type, -, h⟩ := Option.bind_eq_some_iff.1 h
    split at h
    · cases h
    next long_enough =>
      obtain ⟨⟨key, taken⟩, -, h⟩ := Option.bind_eq_some_iff.1 h
      cases h
      simp only [Bool.or_eq_true, decide_eq_true_eq, not_or] at long_enough
      exact ⟨by dsimp only; omega, by dsimp only; omega⟩

/-- Fuel for the bytes that are left does not run out. -/
theorem siblingBlocks_eq {inside : Nat → Nat → Pairs → Guarded Pairs}
    {inside' : Nat → Nat → Pairs → Pairs}
    (same : ∀ off stop pairs, inside off stop pairs = pure (inside' off stop pairs))
    {stop fuel off : Nat} (some_left : 0 < fuel) (enough : stop < off + fuel) (pairs : Pairs) :
    siblingBlocks data bounds inside stop fuel off pairs =
      pure (siblings data bounds inside' stop fuel off pairs) := by
  induction fuel generalizing off pairs with
  | zero => omega
  | succ fuel ih =>
    rw [siblingBlocks, siblings, versionBlock?_eq, pure_bind]
    cases found : block? data off stop bounds.maxKeyChars with
    | none => rfl
    | some b =>
      obtain ⟨long, inside_stop⟩ := block?_bounds found
      have next : b.stop ≤ Address.align4 b.stop := by unfold Address.align4; omega
      have rest (pairs : Pairs) :=
        @ih (Address.align4 b.stop) (by omega) (by omega) pairs
      dsimp only
      by_cases nested : b.childrenOffset < b.stop
      · simp only [nested, if_true, same, pure_bind, rest]
      · simp only [nested, if_false, pure_bind, rest]

theorem nestedBlocks_eq {frames depth : Nat} (levels : Nat)
    (depth_eq : depth + levels = maxNesting + 1) (enough : levels < frames)
    (off stop : Nat) (pairs : Pairs) :
    nestedBlocks data bounds frames depth off stop pairs =
      pure (blocks data bounds levels off stop pairs) := by
  induction levels generalizing frames depth off stop pairs with
  | zero =>
    cases frames with
    | zero => omega
    | succ frames =>
      have depth_now : depth = maxNesting + 1 := by omega
      rw [nestedBlocks, if_pos (by omega), depth_now]
      rfl
  | succ levels ih =>
    cases frames with
    | zero => omega
    | succ frames =>
      rw [nestedBlocks, if_neg (by omega), blocks]
      exact siblingBlocks_eq (ih (by omega) (by omega)) (by omega) (by omega) pairs

theorem versionPairs_eq (data : Bytes) (bounds : Bounds) :
    versionPairs data bounds = pure (VersionInfo.read data bounds) := by
  unfold versionPairs VersionInfo.read
  rw [versionBlock?_eq, pure_bind]
  cases block? data 0 data.size bounds.maxKeyChars with
  | none => rfl
  | some root =>
    dsimp only
    split
    · rfl
    · split
      · rw [nestedBlocks_eq (maxNesting + 1) (Nat.zero_add _) (by decide)]
        rfl
      · rfl

/-- Reading version information leaves the domain of no operation and comes to an end. -/
theorem versionInfo_eq (data : Bytes) (index : ResourceIndex) (limit : Int) :
    versionInfo data index limit = pure (VersionInfo.ofResources data index limit) := by
  unfold versionInfo VersionInfo.ofResources
  cases index.firstOfType? versionResource with
  | none => rfl
  | some leaf =>
    dsimp only
    split
    · rfl
    · cases leaf.offset? with
      | none => rfl
      | some off =>
        simp only [versionPairs_eq]
        rfl

end PeFacts.Guarded
