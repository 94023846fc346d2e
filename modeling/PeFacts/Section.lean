import PeFacts.Address
import PeFacts.Header
import PeFacts.Limits
import PeFacts.Text.Decoding

/-!
# Sections

The section headers follow the optional header. `Section.readAll` reads them in order, and a
`SectionTable` maps relative virtual addresses to positions in the buffer: in a mapped image
the address is the position, in a file the first section that holds the address decides.
-/

namespace PeFacts

/-- One section header; `index` is its place in the table. -/
structure Section where
  index : Nat
  name : String
  virtualSize : Nat
  virtualAddress : Nat
  rawSize : Nat
  rawOffset : Nat
  characteristics : Nat
  /-- The raw data lies wholly inside the buffer. -/
  rawInBounds : Bool
  deriving Repr, DecidableEq, Inhabited

namespace Section

/-- The size of a section header. -/
def headerSize : Nat := 40

/-- The span of addresses the section takes. Some linkers leave the virtual size zero; the raw
size is the span then. -/
def mappedSize (s : Section) : Nat := if s.virtualSize = 0 then s.rawSize else s.virtualSize

/-- The address lies in the section, whose own end must not wrap. -/
def contains (s : Section) (rva : Int) : Bool :=
  match Address.add32? s.virtualAddress s.mappedSize with
  | none => false
  | some stop => s.virtualAddress ≤ rva && rva < stop

/-- The name of a section: eight bytes cut at the first zero. -/
def nameOf (raw : Bytes) : String := asciiText (raw.toList.takeWhile (· != 0))

/-- The section header at `off`. -/
def decode (data : Bytes) (index off : Nat) : Section :=
  let rawSize := data.number (off + 16) 4
  let rawOffset := data.number (off + 20) 4
  { index
    name := nameOf (data.extract off (off + 8))
    virtualSize := data.number (off + 8) 4
    virtualAddress := data.number (off + 12) 4
    rawSize
    rawOffset
    characteristics := data.number (off + 36) 4
    rawInBounds := (Address.add32? rawOffset rawSize).any (· ≤ data.size) }

/-- The section headers from `off` on, at most `count` of them; the first one that is cut off by
the end of the buffer ends the list. -/
def readFrom (data : Bytes) (index off : Nat) : Nat → List Section × List Problem
  | 0 => ([], [])
  | count + 1 =>
    if data.holds off headerSize then
      let (rest, problems) := readFrom data (index + 1) (off + headerSize) count
      (decode data index off :: rest, problems)
    else ([], [.sectionHeaderTruncated index off])

/-- The section headers that the headers announce, at most `limit` of them. -/
def readAll (data : Bytes) (h : Header) (limit : Int) : List Section × List Problem :=
  if (h.numberOfSections : Int) > limit then
    let (sections, problems) := readFrom data 0 h.sectionTableOffset limit.toNat
    (sections, .sectionCountClamped h.numberOfSections limit :: problems)
  else readFrom data 0 h.sectionTableOffset h.numberOfSections

/-- A section as a record. -/
def toValue (s : Section) : Value :=
  .record [
    ("index", .nat s.index),
    ("name", .text s.name),
    ("virtual_size", .nat s.virtualSize),
    ("virtual_address", .nat s.virtualAddress),
    ("raw_data_size", .nat s.rawSize),
    ("raw_data_offset", .nat s.rawOffset),
    ("characteristics", .nat s.characteristics),
    ("raw_data_in_bounds", .bool s.rawInBounds)]

end Section

/-- The sections of a buffer of `length` bytes; `mapped` tells whether the buffer is a memory
image. -/
structure SectionTable where
  sections : List Section
  length : Nat
  mapped : Bool := false
  deriving Repr, Inhabited

namespace SectionTable

/-- The first section that holds the address. -/
def sectionFor? (t : SectionTable) (rva : Int) : Option Section :=
  t.sections.find? (·.contains rva)

/-- The position of the address in the raw data of a section that holds it. -/
def rawPosition? (t : SectionTable) (s : Section) (rva : Nat) : Option Nat := do
  let off ← Address.add32? s.rawOffset (rva - s.virtualAddress)
  let stop ← Address.add32? s.rawOffset s.rawSize
  if off < stop && off < t.length then some off else none

/-- The position of an address in the buffer. The first section that holds it decides, also when
it has no byte there. -/
def offset? (t : SectionTable) (rva : Nat) : Option Nat :=
  if t.mapped then if rva < t.length then some rva else none
  else (t.sectionFor? rva).bind (t.rawPosition? · rva)

/-- The position of an address that may be below zero. -/
def offsetAt? (t : SectionTable) (rva : Int) : Option Nat := (Bytes.position? rva).bind t.offset?

/-- The place of the first section called `name`. -/
def indexOf? (t : SectionTable) (name : String) : Option Nat :=
  (t.sections.find? (·.name == name)).map (·.index)

/-- The section at a place, counted from the end when below zero. -/
def item? (t : SectionTable) (i : Int) : Option Section :=
  if i < 0 then
    if i + t.sections.length < 0 then none else t.sections[(i + t.sections.length).toNat]?
  else t.sections[i.toNat]?

/-- Where the raw data of a section ends in the buffer, if it has any. -/
def rawStop (t : SectionTable) (s : Section) : Nat :=
  if s.rawSize = 0 then 0
  else
    match Address.add32? s.rawOffset s.rawSize with
    | none => 0
    | some stop => min stop t.length

/-- The end of the section data that reaches furthest, zero when there is none. -/
def rawEnd (t : SectionTable) : Nat := t.sections.foldl (fun stop s => max stop (t.rawStop s)) 0

end SectionTable

end PeFacts
