import PeFacts.Bytes

/-!
# Text stored in a buffer

Names are stored as ASCII ended by a zero byte, and Unicode names as UTF-16 little-endian units,
either ended by a zero unit or preceded by their count. Bytes that are no text of the encoding
decode to the replacement character, so decoding is total.
-/

namespace PeFacts

/-- Stands for what could not be decoded. -/
def replacement : Char := '\uFFFD'

/-- ASCII text; every byte above 127 becomes the replacement character. -/
def asciiText (bytes : List UInt8) : String :=
  String.ofList (bytes.map fun b => if b.toNat < 128 then Char.ofNat b.toNat else replacement)

/-- The code unit is the first half of a surrogate pair. -/
def isHighSurrogate (u : Nat) : Bool := 0xD800 ≤ u && u < 0xDC00

/-- The code unit is the second half of a surrogate pair. -/
def isLowSurrogate (u : Nat) : Bool := 0xDC00 ≤ u && u < 0xE000

/-- The character that a surrogate pair stands for. -/
def pairChar (high low : Nat) : Char :=
  Char.ofNat (0x10000 + (high - 0xD800) * 0x400 + (low - 0xDC00))

/-- The characters of UTF-16 little-endian bytes. A surrogate without its partner becomes one
replacement character and decoding goes on at the next unit; an odd last byte becomes one, and so
does a first half at the end together with what follows it. -/
def utf16Chars : List UInt8 → List Char
  | [] => []
  | [_] => [replacement]
  | a :: b :: rest =>
    let unit := a.toNat + 256 * b.toNat
    if isHighSurrogate unit then
      match rest with
      | c :: d :: rest' =>
        let next := c.toNat + 256 * d.toNat
        if isLowSurrogate next then pairChar unit next :: utf16Chars rest'
        else replacement :: utf16Chars (c :: d :: rest')
      | _ => [replacement]
    else if isLowSurrogate unit then replacement :: utf16Chars rest
    else Char.ofNat unit :: utf16Chars rest

/-- UTF-16 little-endian text. -/
def utf16Text (data : Bytes) : String := String.ofList (utf16Chars data.toList)

namespace Bytes

/-- The ASCII text at `off` that a zero byte ends. The zero must stand before the cut at
`off + maxLength`, where a negative bound counts back from the end of the buffer. -/
def cString? (data : Bytes) (off : Nat) (maxLength : Int := 512) : Option String :=
  if data.size ≤ off then none
  else
    let stop := cut data.size (min data.size (off + maxLength))
    (data.zeroByte? off (stop - off)).map fun nul => asciiText (data.extract off nul).toList

/-- The UTF-16 text at `off` that a zero unit ends, with the number of bytes it takes including
that unit. The unit must end before `limit`, the end of the buffer and `2 * maxChars` bytes. -/
def utf16ZString? (data : Bytes) (off : Nat) (maxChars : Int := 512) (limit : Option Int := none) :
    Option (String × Nat) :=
  let bound : Int := min (limit.elim (data.size : Int) (min · data.size)) (off + maxChars * 2)
  (data.zeroUnit? off ((bound - off).toNat / 2)).map fun nul =>
    (utf16Text (data.extract off nul), nul + 2 - off)

/-- The UTF-16 text whose unit count stands at `off` and is at most `maxChars`. -/
def utf16Counted? (data : Bytes) (off : Nat) (maxChars : Int := 512) : Option String := do
  let count ← data.u16? off
  if (count : Int) > maxChars then none
  else (data.span? (off + 2) (count * 2)).map utf16Text

end Bytes

end PeFacts
