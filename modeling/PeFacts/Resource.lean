import PeFacts.Reading
import PeFacts.Section
import PeFacts.VersionInfo

/-!
# Resources

The resource directory is a tree of three levels, type, name and language, whose offsets count
from its first byte and may lead anywhere. `ResourceIndex.read` walks it depth first with a list of
directories still to visit: a directory is entered once, only above the deepest level allowed, and
no more entries than the node budget are read. A bad branch is reported and the rest still indexed.
-/

namespace PeFacts

/-- A key of the tree: a number, or a name that may be unreadable. -/
structure ResourceKey where
  id? : Option Nat := none
  name? : Option String := none
  deriving Repr, DecidableEq, Inhabited

/-- A leaf of the tree: the keys of its path and where the data is. -/
structure ResourceEntry where
  type : ResourceKey
  name : ResourceKey
  language? : Option Nat
  rva : Nat
  size : Nat
  codepage : Nat
  offset? : Option Nat
  deriving Repr, DecidableEq, Inhabited

/-- A leaf as a record. -/
def ResourceEntry.toValue (e : ResourceEntry) : Value :=
  .record [
    ("type", .option .nat e.type.id?),
    ("type_string", .option .text e.type.name?),
    ("id", .option .nat e.name.id?),
    ("name_string", .option .text e.name.name?),
    ("language", .option .nat e.language?),
    ("rva", .nat e.rva),
    ("offset", .option .nat e.offset?),
    ("length", .nat e.size),
    ("codepage", .nat e.codepage)]

/-- The leaves of the tree and what its root says. -/
structure ResourceIndex where
  entries : List ResourceEntry := []
  timestamp? : Option Nat := none
  majorVersion? : Option Nat := none
  minorVersion? : Option Nat := none
  deriving Repr, DecidableEq, Inhabited

/-- A list without repetitions, in increasing order. -/
def sortedDistinct (xs : List Nat) : List Nat :=
  (xs.mergeSort fun a b => decide (a ≤ b)).eraseReps

namespace ResourceIndex

/-- The languages of the leaves, with their regions. -/
def locales (index : ResourceIndex) : List Nat :=
  sortedDistinct (index.entries.filterMap (·.language?))

/-- The languages of the leaves, without their regions. -/
def languages (index : ResourceIndex) : List Nat := sortedDistinct (index.locales.map (· % 256))

/-- Some leaf has this language and region. -/
def hasLocale (index : ResourceIndex) (locale : Int) : Bool :=
  index.locales.any fun l => (l : Int) == locale

/-- Some leaf has this language in any region. -/
def hasLanguage (index : ResourceIndex) (language : Int) : Bool :=
  index.languages.any fun l => (l : Int) == language

/-- The first leaf of a type. -/
def firstOfType? (index : ResourceIndex) (type : Int) : Option ResourceEntry :=
  index.entries.find? fun e => e.type.id?.any fun n => (n : Int) == type

/-- The index as a record. -/
def toValue (index : ResourceIndex) : Value :=
  .record [
    ("entries", .list (index.entries.map ResourceEntry.toValue)),
    ("count", .nat index.entries.length),
    ("timestamp", .option .nat index.timestamp?),
    ("major_version", .option .nat index.majorVersion?),
    ("minor_version", .option .nat index.minorVersion?),
    ("locales", .list (index.locales.map .nat)),
    ("languages", .list (index.languages.map .nat))]

/-- The size of a directory before its entries. -/
def directorySize : Nat := 16

/-- The size of a directory entry. -/
def entrySize : Nat := 8

/-- The level of the types. -/
def typeLevel : Nat := 0

/-- The level of the languages, at which data stands. -/
def languageLevel : Nat := 2

/-- The bit that marks a name among keys and a directory among targets. -/
def highBit : Nat := 0x80000000

/-- What the tree is read from; `base` is the position of its root. -/
structure Source where
  data : Bytes
  sections : SectionTable
  limits : Limits
  base : Nat

/-- A directory still to visit, with the keys that lead to it. -/
structure Pending where
  directory : Nat
  level : Nat
  type : ResourceKey := {}
  name : ResourceKey := {}
  deriving Repr, DecidableEq, Inhabited

/-- The key that an entry holds. -/
def Source.key (src : Source) (raw : Nat) : ResourceKey :=
  if highBit ≤ raw then
    ⟨none, src.data.utf16Counted? (src.base + raw % highBit) src.limits.maxNameLength⟩
  else ⟨some (raw % 0x10000), none⟩

/-- The directory below `p` that an entry of this key leads to. -/
def Pending.below (p : Pending) (key : ResourceKey) (directory : Nat) : Pending :=
  if p.level = typeLevel then { directory, level := p.level + 1, type := key }
  else { directory, level := p.level + 1, type := p.type, name := key }

/-- The leaf whose data entry is at `target`. -/
def Source.leaf? (src : Source) (p : Pending) (key : ResourceKey) (target : Nat) :
    Option ResourceEntry := do
  let off := src.base + target
  let rva ← src.data.u32? off
  let size ← src.data.u32? (off + 4)
  let codepage ← src.data.u32? (off + 8)
  return {
    type := p.type, name := p.name, language? := key.id?, rva, size, codepage
    offset? := src.sections.offset? rva }

/-- The state of the walk: the leaves and problems so far, the directories entered, and how many
more entries may be read. -/
structure Walk extends Reading ResourceEntry where
  entered : List Nat := []
  budget : Nat

/-- The walk with one more problem. -/
def Walk.note (w : Walk) (p : Problem) : Walk := { w with toReading := w.toReading.report p }

/-- What reading the entries of one directory gives: the walk, the directories below it in order,
and whether the budget ran out. -/
structure Scan where
  walk : Walk
  below : Array Pending := #[]
  exhausted : Bool := false

/-- Reads the entry whose key is `raw` and which leads to `target`. -/
def Source.entry (src : Source) (p : Pending) (raw target : Nat) (s : Scan) : Scan :=
  let key := src.key raw
  if highBit ≤ target then { s with below := s.below.push (p.below key (target % highBit)) }
  else if p.level ≠ languageLevel then
    { s with walk := s.walk.note (.resourceLeafAboveLanguage p.directory p.level) }
  else
    match src.leaf? p key target with
    | none => { s with walk := s.walk.note (.resourceDataEntryOutside target) }
    | some leaf => { s with walk := { s.walk with toReading := s.walk.toReading.keep leaf } }

/-- Reads `left` entries of a directory from `off` on. -/
def Source.entriesFrom (src : Source) (p : Pending) (index off : Nat) : Nat → Scan → Scan
  | 0, s => s
  | left + 1, s =>
    if s.walk.budget = 0 then
      { s with
        walk := s.walk.note (.tooManyResourceNodes src.limits.maxResourceNodes)
        exhausted := true }
    else
      let s := { s with walk := { s.walk with budget := s.walk.budget - 1 } }
      match src.data.u32? off, src.data.u32? (off + 4) with
      | some raw, some target =>
        src.entriesFrom p (index + 1) (off + entrySize) left (src.entry p raw target s)
      | _, _ => { s with walk := s.walk.note (.resourceEntryOutside p.directory index) }

/-- Visits one directory. -/
def Source.visit (src : Source) (p : Pending) (w : Walk) : Scan :=
  if w.entered.contains p.directory then { walk := w.note (.resourceCycle p.directory) }
  else if (p.level : Int) ≥ src.limits.maxResourceDepth then
    { walk := w.note (.resourceTooDeep src.limits.maxResourceDepth p.directory) }
  else
    let w := { w with entered := p.directory :: w.entered }
    let off := src.base + p.directory
    if !src.data.holds off directorySize then
      { walk := w.note (.resourceDirectoryOutside p.directory) }
    else
      let count := src.data.number (off + 12) 2 + src.data.number (off + 14) 2
      src.entriesFrom p 0 (off + directorySize) count { walk := w }

/-- Visits the directories of a list, each followed by those below it. Every directory of the list
but the first was paid for with one entry of the budget, so `fuel` covers the list and the budget
that is left. -/
def Source.visitAll (src : Source) : (fuel : Nat) → List Pending → Walk → Walk
  | 0, _, w => w
  | _ + 1, [], w => w
  | fuel + 1, p :: rest, w =>
    let s := src.visit p w
    if s.exhausted then s.walk else src.visitAll fuel (s.below.toList ++ rest) s.walk

/-- The resources at an address, with the problems met. -/
def read (data : Bytes) (sections : SectionTable) (limits : Limits) (rva : Nat) :
    ResourceIndex × List Problem :=
  match (sections.offset? rva).filter (data.holds · directorySize) with
  | none => ({}, [.resourcesUnmappable rva])
  | some base =>
    let budget := limits.maxResourceNodes.toNat
    let walk := Source.visitAll ⟨data, sections, limits, base⟩ (budget + 2)
      [{ directory := 0, level := typeLevel }] { budget }
    ({ entries := walk.found.toList
       timestamp? := data.u32? (base + 4)
       majorVersion? := data.u16? (base + 8)
       minorVersion? := data.u16? (base + 10) },
      walk.problems.toList)

end ResourceIndex

/-- The version information among the resources, with the problems met. -/
def VersionInfo.ofResources (data : Bytes) (index : ResourceIndex) (limit : Int) :
    List (String × String) × List Problem :=
  match index.firstOfType? versionResource with
  | none => ([], [])
  | some leaf =>
    if leaf.size = 0 then ([], [])
    else
      match leaf.offset? with
      | none => ([], [.resourceDataUnmappable leaf.rva])
      | some off =>
        let size : Int := min leaf.size limit
        let blob := data.clamped off size.toNat
        let before :=
          (if (leaf.size : Int) > limit then [.versionInfoTooLarge leaf.size limit] else []) ++
          (if (blob.size : Int) < size then [.resourceDataTruncated off size] else [])
        let (pairs, problems) := VersionInfo.read blob
        (pairs, before ++ problems)

end PeFacts
