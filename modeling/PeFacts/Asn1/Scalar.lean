import PeFacts.Asn1.Element

/-!
# Contents of ASN.1 scalars

What the content octets of integers, object identifiers, bit strings and universal texts say, and
which contents are well formed.
-/

namespace PeFacts.Asn1

/-- The integer in two's complement; no octets make zero. -/
def signed (content : Octets) : Int :=
  match content with
  | [] => 0
  | b :: _ =>
    if b < 0x80 then bigEndian content else (bigEndian content : Int) - (1 <<< (8 * content.length) : Nat)

/-- The content of an integer has an octet, and its first nine bits are not all equal. -/
def isShortestInteger : Octets → Bool
  | [] => false
  | [_] => true
  | a :: b :: _ => !(a == 0 && b < 0x80) && !(a == 0xff && b ≥ 0x80)

/-- The integer, when its content is the shortest one. -/
def shortestInteger? (content : Octets) : Option Int :=
  if isShortestInteger content then some (signed content) else none

/-- Names a kind of thing by a path of numbers. -/
structure ObjectId where
  arcs : List Nat
  deriving Repr, DecidableEq, Inhabited

/-- The path in decimal, joined by dots. -/
def ObjectId.text (id : ObjectId) : String := ".".intercalate (id.arcs.map toString)

/-- Splits content into numbers in base 128; `n` is what the `digits` digits before it make. No number
starts with a zero digit and the last one must be complete; each has at most `width` digits. -/
def numbers128 (width : Nat) (n : Nat) (digits : Nat) : Octets → Option (List Nat)
  | [] => if digits = 0 then some [] else none
  | b :: rest =>
    if digits = width || (digits = 0 && b = 0x80) then none
    else
      let n := n * 128 + b.toNat % 128
      if b < 0x80 then (numbers128 width 0 0 rest).map (n :: ·)
      else numbers128 width n (digits + 1) rest

/-- The path in the content of an object identifier, each number of which has at most `width` digits. The
first number stands for two arcs. -/
def ObjectId.read? (content : Octets) (width : Nat := content.length + 1) : Option ObjectId := do
  match ← numbers128 width 0 0 content with
  | [] => none
  | n :: rest =>
    let top := min (n / 40) 2
    return ⟨top :: (n - 40 * top) :: rest⟩

/-- The content of a bit string has its count of unused bits, at most seven. -/
def isBitString : Octets → Bool
  | [] => false
  | unused :: _ => unused ≤ 7

/-- The bits that a bit string leaves unused are zero. -/
def hasZeroPadding : Octets → Bool
  | [] => false
  | [unused] => unused == 0
  | unused :: bits => unused ≤ 7 && (bits.getLastD 0).toNat % (1 <<< unused.toNat) == 0

/-- A bit string with its unused bits cleared. Without bits none is unused. -/
def clearPadding : Octets → Octets
  | [] => []
  | [_] => [0]
  | unused :: bits =>
    let last := bits.getLastD 0
    unused :: (bits.dropLast ++ [last - (last.toNat % (1 <<< unused.toNat)).toUInt8])

/-- The text in UTF-8 octets. -/
def utf8Text? (content : Octets) : Option String :=
  String.fromUTF8? ⟨content.toArray⟩

/-- The character with this code, unless it is a surrogate or none at all. -/
def charOf? (code : Nat) : Option Char := if code.isValidChar then some (Char.ofNat code) else none

/-- The text in big-endian units of 32 bits. -/
def utf32Text? : Octets → Option (List Char)
  | [] => some []
  | a :: b :: c :: d :: rest => do
    let ch ← charOf? (bigEndian [a, b, c, d])
    return ch :: (← utf32Text? rest)
  | _ => none

/-- The text in big-endian units of 16 bits, one for each character. -/
def utf16Text? : Octets → Option (List Char)
  | [] => some []
  | a :: b :: rest => do
    let ch ← charOf? (bigEndian [a, b])
    return ch :: (← utf16Text? rest)
  | _ => none

end PeFacts.Asn1
