import PeFacts.Header

/-!
# Rich header

Linkers place a masked table of the tools used between the DOS stub and the other headers:
`DanS`, three zero words and pairs of a tool and a count, each word masked with a key, then the
word `Rich` and the key. A tool is its identifier in the high half and its version in the low half
of a word. The key is also a checksum of the DOS header and the table.
-/

namespace PeFacts

/-- One entry of the table: a tool of some version and how often it was used. -/
structure RichEntry where
  toolId : Nat
  version : Nat
  count : Nat
  deriving Repr, DecidableEq, Inhabited

/-- A tool as the table stores it. -/
def RichEntry.tool (e : RichEntry) : Nat := e.toolId * 0x10000 + e.version

/-- An entry as a record. -/
def RichEntry.toValue (e : RichEntry) : Value :=
  .record [("toolid", .nat e.toolId), ("version", .nat e.version), ("count", .nat e.count)]

/-- A decoded table. -/
structure RichSignature where
  offset : Nat
  length : Nat
  key : Nat
  rawData : Bytes
  clearData : Bytes
  checksumValid : Bool := false
  deriving DecidableEq, Inhabited

namespace Rich

/-- The letters `Rich`. -/
def marker : Bytes := #[0x52, 0x69, 0x63, 0x68]

/-- The letters `DanS` as a word. -/
def startWord : Nat := 0x536E6144

/-- A word as four bytes, least first. -/
def wordBytes (w : Nat) : Bytes :=
  #[w.toUInt8, (w / 0x100).toUInt8, (w / 0x10000).toUInt8, (w / 0x1000000).toUInt8]

/-- Every whole word masked with a key of 32 bits; bytes after the last word stay. -/
def maskWords (data : Bytes) (key : Nat) : Bytes :=
  let words := data.size / 4
  (List.range words).foldl (fun out i => out ++ wordBytes (data.number (4 * i) 4 ^^^ key)) #[] ++
    data.extract (4 * words) data.size

/-- Masks with a key of any size, which must fit a word unless there is no whole word. -/
def maskWords? (data : Bytes) (key : Int) : Option Bytes :=
  if data.size < 4 then some data
  else if 0 ≤ key ∧ key ≤ 0xFFFFFFFF then some (maskWords data key.toNat)
  else none

/-- The entries of a clear table, after its four words. -/
def entriesOf (clear : Bytes) : List RichEntry :=
  (List.range ((clear.size - 16) / 8)).map fun i =>
    let tool := clear.number (16 + 8 * i) 4
    ⟨tool / 0x10000, tool % 0x10000, clear.number (20 + 8 * i) 4⟩

/-- A 32-bit word turned left by `turns` places. -/
def rotateLeft (w turns : Nat) : Nat :=
  let n := turns % 32
  (w <<< n) % 0x100000000 + w >>> (32 - n)

/-- The checksum of the bytes before the table, without the field that locates the other headers,
and of the table's tools. -/
def checksum (data : Bytes) (start : Nat) (entries : List RichEntry) : Nat :=
  let header := (List.range start).foldl (fun sum i =>
    if Header.eLfanewOffset ≤ i ∧ i < Header.eLfanewOffset + 4 then sum
    else (sum + rotateLeft (data.byte i) i) % 0x100000000) start
  entries.foldl (fun sum e => (sum + rotateLeft e.tool e.count) % 0x100000000) header

/-- The first of `count` aligned positions from `off` at which the marker stands. -/
def markerFrom (data : Bytes) (off : Nat) : Nat → Option Nat
  | 0 => none
  | count + 1 => if data.matchesAt marker off then some off else markerFrom data (off + 4) count

/-- The first marker that stands at a distance of whole words from the DOS header and lies before
the cut at `stop`. -/
def marker? (data : Bytes) (stop : Int) : Option Nat :=
  let last := Bytes.cut data.size (min stop data.size)
  markerFrom data Header.dosSize ((last - Header.dosSize) / 4)

/-- The last of the `words` words after the DOS header that is the masked start. -/
def start? (data : Bytes) (key : Nat) : Nat → Option Nat
  | 0 => none
  | words + 1 =>
    let off := Header.dosSize + 4 * words
    if data.number off 4 ^^^ key = startWord then some off else start? data key words

/-- The table whose marker stands at `off`. -/
def decodeAt? (data : Bytes) (off : Nat) : Option RichSignature := do
  let key ← data.u32? (off + 4)
  let start ← start? data key ((off - Header.dosSize) / 4)
  let raw := data.extract start off
  let clear := maskWords raw key
  return {
    offset := start
    length := raw.size
    key
    rawData := raw
    clearData := clear
    checksumValid := checksum data start (entriesOf clear) == key }

/-- The table before `eLfanew`, looked for in the first `limit` bytes after the DOS header, with the
problems met. -/
def read (data : Bytes) (eLfanew : Int) (limit : Int := 0x1000) :
    Option RichSignature × List Problem :=
  let stop := min eLfanew data.size
  let window := Header.dosSize + limit
  -- The marker and the key must both fit.
  match marker? data (min stop window - 4) with
  | some off => (decodeAt? data off, [])
  | none => (none, if stop > window then [.richSearchClamped limit eLfanew] else [])

end Rich

namespace RichSignature

/-- The entries of the table. -/
def entries (s : RichSignature) : List RichEntry := Rich.entriesOf s.clearData

/-- How often the tools of some entries were used in all. -/
def totalCount (entries : List RichEntry) : Nat := entries.foldl (fun sum e => sum + e.count) 0

/-- How often tools of this version were used, only those of one identifier if it is given. -/
def versionCount (s : RichSignature) (version : Int) (toolId? : Option Int := none) : Nat :=
  totalCount (s.entries.filter fun e =>
    (e.version : Int) == version && toolId?.all ((e.toolId : Int) == ·))

/-- How often tools of this identifier were used, only those of one version if it is given. -/
def toolCount (s : RichSignature) (toolId : Int) (version? : Option Int := none) : Nat :=
  totalCount (s.entries.filter fun e =>
    (e.toolId : Int) == toolId && version?.all ((e.version : Int) == ·))

/-- The table as a record. -/
def toValue (s : RichSignature) : Value :=
  .record [
    ("offset", .nat s.offset),
    ("length", .nat s.length),
    ("key", .nat s.key),
    ("raw_data", .text s.rawData.hex),
    ("clear_data", .text s.clearData.hex),
    ("checksum_valid", .bool s.checksumValid),
    ("entries", .list (s.entries.map RichEntry.toValue))]

end RichSignature

end PeFacts
