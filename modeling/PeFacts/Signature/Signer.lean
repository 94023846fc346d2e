import PeFacts.Asn1.Reader
import PeFacts.Asn1.Scalar

/-!
# Signers of a message

Who signed a message, and the attributes that each signer left unauthenticated. Lengths must be
definite here but need not be shortest, integers may be padded and sets may stand in any order; the
structure around the signers must be of its type in full.
-/

namespace PeFacts

open Asn1

/-- One signer: the issuer and serial number of its certificate, and its unauthenticated attributes
with their values as they stand. -/
structure Signer where
  /-- The issuer's name in distinguished form. -/
  issuer : Octets
  serial : Int
  attributes : List (ObjectId × List Octets)
  deriving Repr, DecidableEq

namespace Signer

/-- An integer, padded or not. -/
def integer : Reader Int := Rules.definite.primitive .integer fun content => some (signed content)

/-- The most digits to the base 128 that one number of an object identifier has. -/
def maxArcDigits : Nat := 21

/-- The content of an object identifier. -/
def objectIdContent : Reader Octets :=
  Rules.definite.primitive .objectId fun content =>
    (ObjectId.read? content maxArcDigits).map fun _ => content

/-- An object identifier. -/
def objectId : Reader ObjectId :=
  Rules.definite.primitive .objectId fun content => ObjectId.read? content maxArcDigits

/-- A piece of a text of the universal type: an element of that type, or a constructed one with a tag of
another space. Its content counts as it stands. -/
def piece (type : Tag) : Reader Octets := do
  let h ← header .definite
  if h.tag = type || (h.constructed && h.tag.space ≠ 0) then rawContents h else malformed

/-- A text of the universal type, in pieces if it is constructed. -/
def text (type : Tag) : Reader Octets := do
  let h ← Rules.definite.tagged type
  if h.constructed then return (← constructedContents h (many (piece type))).flatten
  else rawContents h

/-- A piece of a bit string. It counts the bits that it leaves unused, and it must have them. -/
def bitPiece : Reader Unit := do
  match ← piece .bitString with
  | [] => throw .emptyPiece
  | unused :: bits =>
    if 7 < unused then malformed
    else if bits.isEmpty && unused != 0 then throw .overusedPiece

/-- A bit string with the given tag. -/
def bitString (tag : Tag := .bitString) : Reader Unit := do
  let h ← Rules.definite.tagged tag
  match h.size? with
  | some (size + 1) =>
    if h.constructed then
      let _ ← constructedContents h (many bitPiece)
    else
      if 7 < (← octet) then malformed
      let _ ← octets size
  | _ => malformed

/-- A run of octets. -/
def octetString : Reader Unit := do
  let _ ← text .octetString

/-- The tag of end-of-contents marks, which nothing else has. -/
def markTag : Tag := .universal 0

/-- Any element, as it stands. -/
def anything : Reader Octets := do
  let before ← get
  let h ← header .definite
  if h.tag = markTag then malformed
  let headerLength := before.length - (← get).length
  set before
  octets (headerLength + h.size?.getD 0)

/-- An algorithm, with parameters of any type. -/
def algorithm : Reader Unit :=
  Rules.definite.sequence do
    let _ ← objectId
    if (← get).isEmpty then return ()
    let _ ← anything

/-- The order of set members: compared octet by octet, the shorter one filled up with zeros. -/
def memberLE : Octets → Octets → Bool
  | [], _ => true
  | a :: rest, [] => a == 0 && memberLE rest []
  | a :: rest, b :: others => a < b || (a == b && memberLE rest others)

/-- A name, written in distinguished form. -/
def name : Reader Octets := do
  let parts ← Rules.definite.sequenceOf <| Rules.definite.setOf <| Rules.definite.sequence do
    let type ← objectIdContent
    let value ← anything
    return encode .sequence true (encode .objectId false type ++ value)
  let sets := parts.map fun part => encode .set true (part.mergeSort memberLE).flatten
  return encode .sequence true sets.flatten

/-- Text of ASCII octets. -/
def asciiOf (type : Tag) : Reader Unit := do
  if !(← text type).all (· < 0x80) then malformed

/-- A point in time, not read further. -/
def time : Reader Unit := do
  if (← Rules.definite.optional .utcTime (asciiOf .utcTime)).isNone then asciiOf .generalizedTime

/-- An extension: what kind, whether it is critical, and a value. -/
def extension : Reader Unit :=
  Rules.definite.sequence do
    let _ ← objectId
    let _ ← Rules.definite.optional .boolean <| Rules.definite.primitive .boolean fun _ => some ()
    octetString

/-- A certificate. -/
def certificate : Reader Unit :=
  Rules.definite.sequence do
    Rules.definite.sequence do
      let _ ← Rules.definite.optional (.context 0) (Rules.definite.constructed (.context 0) integer)
      let _ ← integer
      algorithm
      let _ ← name
      Rules.definite.sequence do
        time
        time
      let _ ← name
      Rules.definite.sequence do
        algorithm
        bitString
      let _ ← Rules.definite.optional (.context 1) (bitString (.context 1))
      let _ ← Rules.definite.optional (.context 2) (bitString (.context 2))
      let _ ← Rules.definite.optional (.context 3) <|
        Rules.definite.constructed (.context 3) (Rules.definite.sequenceOf extension)
    algorithm
    bitString

/-- The members of a set under a tag of its own. -/
def taggedSet {α : Type} (tag : Tag) (r : Reader α) : Reader (List α) :=
  Rules.definite.constructed tag (many r)

/-- An attribute and its values. -/
def attributeValues : Reader (ObjectId × List Octets) :=
  Rules.definite.sequence do
    let type ← objectId
    return (type, ← Rules.definite.setOf anything)

/-- A certificate with attributes around it. -/
def extendedCertificate : Reader Unit :=
  Rules.definite.constructed (.context 0) do
    Rules.definite.sequence do
      let _ ← integer
      certificate
      let _ ← Rules.definite.setOf attributeValues
    algorithm
    bitString

/-- A certificate, extended or not. -/
def anyCertificate : Reader Unit := do
  if (← Rules.definite.optional (.context 0) extendedCertificate).isNone then certificate

/-- A list of revoked certificates in its first version. -/
def revocationList : Reader Unit :=
  Rules.definite.sequence do
    Rules.definite.sequence do
      algorithm
      let _ ← name
      asciiOf .utcTime
      asciiOf .utcTime
      let _ ← Rules.definite.optional .sequence <| Rules.definite.sequenceOf <| Rules.definite.sequence do
        let _ ← integer
        asciiOf .utcTime
    algorithm
    bitString

/-- One signer. -/
def signer : Reader Signer :=
  Rules.definite.sequence do
    let _ ← integer
    let (issuer, serial) ← Rules.definite.sequence do
      let issuer ← name
      return (issuer, ← integer)
    algorithm
    let _ ← Rules.definite.optional (.context 0) (taggedSet (.context 0) attributeValues)
    algorithm
    octetString
    let attributes ← Rules.definite.optional (.context 1) (taggedSet (.context 1) attributeValues)
    return ⟨issuer, serial, attributes.getD []⟩

/-- The type and the content of a message. The content has a tag of its own around it; an element without
that tag is the content as it stands. -/
def message : Reader (ObjectId × Option Octets) :=
  Rules.definite.sequence do
    let type ← objectId
    if (← get).isEmpty then return (type, none)
    if nextTag? .definite (← get) = some (.context 0) then
      return (type, some (← rawContents (← header .definite)))
    else return (type, some (← anything))

/-- The signers of signed data; the set of signers may be left out. -/
def signedData : Reader (List Signer) :=
  Rules.definite.sequence do
    let _ ← integer
    let _ ← Rules.definite.optional .set (Rules.definite.setOf algorithm)
    let _ ← message
    let _ ← Rules.definite.optional (.context 0) (taggedSet (.context 0) anyCertificate)
    let _ ← Rules.definite.optional (.context 1) (taggedSet (.context 1) revocationList)
    return (← Rules.definite.optional .set (Rules.definite.setOf signer)).getD []

end Signer

end PeFacts
