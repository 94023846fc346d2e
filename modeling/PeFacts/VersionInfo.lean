import PeFacts.Address
import PeFacts.Reading
import PeFacts.Text.Decoding

/-!
# Version information

Version information is a tree of blocks. A block holds its length, the length and type of its
value, a key that a zero unit ends, a value and further blocks, each aligned to four bytes. Text
values of blocks that are no containers are the facts; the first value of a key counts.
-/

namespace PeFacts.VersionInfo

/-- Blocks of these keys hold other blocks only. -/
def containerKeys : List String := ["VS_VERSION_INFO", "StringFileInfo", "VarFileInfo"]

/-- Blocks are nested no deeper than this. -/
def maxNesting : Nat := 8

/-- How much of version information is read. -/
structure Bounds where
  maxPairs : Int := 200
  maxKeyChars : Int := 200
  maxValueChars : Int := 2000

/-- The header of a block; `headerEnd` and `stop` are positions. -/
structure Block where
  valueLength : Nat
  isText : Bool
  key : String
  headerEnd : Nat
  stop : Nat
  deriving Repr, DecidableEq

/-- The block at `off`, which must end at `limit` or before. -/
def block? (data : Bytes) (off limit : Nat) (maxKeyChars : Int) : Option Block := do
  if off + 6 > limit then none
  let length ← data.u16? off
  let valueLength ← data.u16? (off + 2)
  let type ← data.u16? (off + 4)
  if length < 6 || off + length > limit then none
  let (key, taken) ← data.utf16ZString? (off + 6) maxKeyChars (some ((off + length : Nat) : Int))
  return ⟨valueLength, type == 1, key, off + 6 + taken, off + length⟩

/-- Where the value of a block begins. -/
def Block.valueOffset (b : Block) : Nat := Address.align4 b.headerEnd

/-- The size of the value: text is counted in units of two bytes. -/
def Block.valueSize (b : Block) : Nat := if b.isText then b.valueLength * 2 else b.valueLength

/-- Where the blocks inside a block begin. -/
def Block.childrenOffset (b : Block) : Nat := Address.align4 (b.valueOffset + b.valueSize)

/-- A text without the zero characters at its end. -/
def trimZeros (s : String) : String :=
  String.ofList (s.toList.reverse.dropWhile (· == '\x00')).reverse

/-- The text value of a block, cut at the bound and at the end of the block. -/
def Block.text (data : Bytes) (b : Block) (maxChars : Int) : String :=
  let size : Int := min (min (b.valueLength * 2) (maxChars * 2)) (b.stop - b.valueOffset)
  trimZeros (utf16Text (data.clamped b.valueOffset size.toNat))

/-- Pairs of a key and its value found so far, and the problems met. -/
abbrev Pairs := Reading (String × String)

/-- Keeps the value of a block if it is a fact, its key is new and there is room. -/
def keepValue (data : Bytes) (bounds : Bounds) (b : Block) (pairs : Pairs) : Pairs :=
  if !containerKeys.contains b.key && b.isText && 0 < b.valueLength &&
      (pairs.found.size : Int) < bounds.maxPairs && !pairs.found.any (·.1 == b.key) then
    pairs.keep (b.key, b.text data bounds.maxValueChars)
  else pairs

/-- Reads the blocks side by side from `off` up to `stop`; `inside` reads what a block holds. A
block takes six bytes or more, so no more than `stop` blocks can follow. -/
def siblings (data : Bytes) (bounds : Bounds) (inside : Nat → Nat → Pairs → Pairs) (stop : Nat) :
    Nat → Nat → Pairs → Pairs
  | 0, _, pairs => pairs
  | fuel + 1, off, pairs =>
    match block? data off stop bounds.maxKeyChars with
    | none => pairs
    | some b =>
      let pairs := keepValue data bounds b pairs
      let pairs := if b.childrenOffset < b.stop then inside b.childrenOffset b.stop pairs else pairs
      siblings data bounds inside stop fuel (Address.align4 b.stop) pairs

/-- Reads the blocks between `off` and `stop`, with `levels` levels allowed below. -/
def blocks (data : Bytes) (bounds : Bounds) : (levels : Nat) → (off stop : Nat) → Pairs → Pairs
  | 0, _, _, pairs => pairs.report (.versionTooDeep (maxNesting + 1))
  | levels + 1, off, stop, pairs =>
    siblings data bounds (blocks data bounds levels) stop (stop + 1) (Address.align4 off) pairs

/-- The pairs in the order of their keys. -/
def sortPairs (pairs : List (String × String)) : List (String × String) :=
  pairs.mergeSort fun p q => decide (p.1 ≤ q.1)

/-- The pairs of version information, sorted by key, with the problems met. -/
def read (data : Bytes) (bounds : Bounds := {}) : List (String × String) × List Problem :=
  match block? data 0 data.size bounds.maxKeyChars with
  | none => ([], [.versionRootUnreadable])
  | some root =>
    if root.key ≠ "VS_VERSION_INFO" then ([], [.versionRootKey root.key])
    else if root.childrenOffset < root.stop then
      let pairs := blocks data bounds (maxNesting + 1) root.childrenOffset root.stop {}
      (sortPairs pairs.found.toList, pairs.problems.toList)
    else ([], [])

end PeFacts.VersionInfo
