import PeFacts.Asn1.Reader
import PeFacts.Asn1.Scalar

/-!
# Signature envelopes

A signature blob is a cryptographic message: a content type and a content of that type. The message
is read here for the certificates it carries, under the basic rules, so lengths may be open and
texts may come in pieces. Every part must still be of its type. Each certificate is written again
with its own signature in the shortest form (`certificate`), because the certificate reader takes
no other. Parts lie inside parts, at most `maxNesting` deep; names count afresh.
-/

namespace PeFacts.Envelope

open Asn1

/-- The types of content that a message has. -/
def dataType : ObjectId := ⟨[1, 2, 840, 113549, 1, 7, 1]⟩
def signedType : ObjectId := ⟨[1, 2, 840, 113549, 1, 7, 2]⟩
def envelopedType : ObjectId := ⟨[1, 2, 840, 113549, 1, 7, 3]⟩
def signedAndEnvelopedType : ObjectId := ⟨[1, 2, 840, 113549, 1, 7, 4]⟩
def digestedType : ObjectId := ⟨[1, 2, 840, 113549, 1, 7, 5]⟩
def encryptedType : ObjectId := ⟨[1, 2, 840, 113549, 1, 7, 6]⟩

/-- What a reader of a certificate knows of a message: the type of its content, and the
certificates it carries if it has a field for them. -/
structure Message where
  type : ObjectId
  certificates? : Option (List Octets) := none
  deriving Repr, DecidableEq

/-- Reads a part of a message, given how many levels of parts may still be entered. -/
abbrev PartReader (α : Type) := ReaderT Nat Reader α

/-- How many levels of parts there may be. -/
def maxNesting : Nat := 30

/-- A part on the next level. -/
def part {α : Type} (r : PartReader α) : PartReader α := fun levels =>
  match levels with
  | 0 => malformed
  | levels + 1 => r levels

/-- A part in which levels count afresh. -/
def separate {α : Type} (r : PartReader α) : PartReader α := part fun _ => r maxNesting

/-! ## Values -/

/-- Pieces of a text up to the end of its content, one after the other; they nest less than `depth`
deep. -/
def pieces : (depth : Nat) → Reader Octets
  | 0 => malformed
  | depth + 1 => do
    let texts ← many do
      let h ← header .basic
      if h.constructed then contents h (pieces depth) else rawContents h
    return texts.flatten

/-- How deep the pieces of a text may nest. -/
def pieceDepth : Nat := 6

/-- The universal types that are never made of pieces: truth values, integers, nulls, object identifiers
and enumerations. -/
def isWhole (type : Tag) : Bool := ([1, 2, 5, 6, 10].map Tag.universal).contains type

/-- The type is a sequence or a set. -/
def isCollection (type : Tag) : Bool := type = .sequence || type = .set

/-- The content is one that the universal type may have. -/
def fits (type : Tag) (content : Octets) : Bool :=
  if type = .boolean then content.length = 1
  else if type = .null then content.isEmpty
  else if type = .objectId then (ObjectId.read? content).isSome
  else if type = .integer || type = .enumerated then isShortestInteger content
  else if type = .bitString then isBitString content
  else if type = .bmpString then content.length % 2 = 0
  else if type = .universalString then content.length % 4 = 0
  else if type = .utcTime then 13 ≤ content.length
  else if type = .generalizedTime then 15 ≤ content.length
  else true

/-- The content after a header, of a universal type; its pieces are put together, and a sequence or set
stands as it is. -/
def typedContent (h : Header) (type : Tag) : Reader Octets := do
  if isCollection type then
    if h.constructed then rawContents h else malformed
  else
    let content ←
      if !h.constructed then rawContents h
      else if isWhole type then malformed
      else contents h (pieces pieceDepth)
    if fits type content then return content else malformed

/-- The content of the next element, which must have this tag and be of this universal type. -/
def field (tag : Tag) (type : Tag := tag) : PartReader Octets := part do
  typedContent (← Rules.basic.tagged tag) type

/-- An element of any type, written again in its shortest form where its type is universal and no
collection. -/
def anything : PartReader Octets := part do
  let ((tag, content), whole) ← (recorded do
    let h ← header .basic
    return (h.tag, ← if h.tag.space = 0 then typedContent h h.tag else rawContents h) : Reader _)
  if tag.space ≠ 0 || isCollection tag then return whole
  else return encode tag false (if tag = .bitString then clearPadding content else content)

/-! ## Structures -/

/-- Reads the part if the next element has this tag. -/
def maybe {α : Type} (tag : Tag) (r : PartReader α) : PartReader (Option α) := fun levels =>
  Rules.basic.optional tag (r levels)

/-- The members of a set or list, whose identifier need not say that it is constructed. -/
def members {α : Type} (tag : Tag) (r : PartReader α) : PartReader (List α) := fun levels => do
  contents (← Rules.basic.tagged tag) (many (r levels))

/-- A part with a tag around it. -/
def explicit {α : Type} (tag : Tag) (r : PartReader α) : PartReader α := fun levels =>
  Rules.basic.constructed tag (r levels)

/-- The fields of a sequence. -/
def fields {α : Type} (r : PartReader α) : PartReader α := part (explicit .sequence r)

/-- What is read, and how it stands. -/
def quoted {α : Type} (r : PartReader α) : PartReader (α × Octets) := fun levels =>
  recorded (r levels)

/-- An object identifier. -/
def objectId : PartReader ObjectId := do present (ObjectId.read? (← field .objectId))

/-- An algorithm, written again. -/
def algorithm : PartReader Octets :=
  fields do
    let id ← field .objectId
    let parameters ← if ← atEnd then pure [] else anything
    return encode .sequence true (encode .objectId false id ++ parameters)

/-- The numbers of the universal types that the value of a name may have. -/
def nameTypes : List Nat := [3, 7, 8, 9, 11, 12, 13, 14, 15, 16, 18, 19, 20, 22, 28, 29, 30]

/-- The value of an attribute, whose text must have a common form. -/
def nameValue : PartReader Unit := part do
  let h ← header .basic
  if h.tag.space ≠ 0 || !nameTypes.contains h.tag.number then malformed
  let content ← typedContent h h.tag
  let readable :=
    if h.tag = .utf8String then (utf8Text? content).isSome
    else if h.tag = .bmpString then (utf16Text? content).isSome
    else if h.tag = .universalString then (utf32Text? content).isSome
    else true
  if readable then return () else malformed

/-- A name. -/
def name : PartReader Unit := separate do
  let _ ← part <| members .sequence <| members .set <| fields do
    let _ ← field .objectId
    nameValue

/-- A point in time. -/
def time : PartReader Unit := part do
  let h ← header .basic
  if h.tag = .utcTime || h.tag = .generalizedTime then
    let _ ← typedContent h h.tag
  else malformed

/-- The type and the value of an extension. -/
def extension : PartReader (ObjectId × Octets) :=
  fields do
    let type ← objectId
    let _ ← maybe .boolean (field .boolean)
    return (type, ← field .octetString)

/-- Extensions under an explicit tag, if they are there. -/
def extensions (tag : Tag) : PartReader (List (ObjectId × Octets)) := do
  return (← maybe tag (explicit tag (members .sequence extension))).getD []

/-- The signed part of a certificate, as it stands. -/
def certificateBody : PartReader Octets := do
  let ((), whole) ← quoted <| fields do
    let _ ← maybe (.context 0) (explicit (.context 0) (field .integer))
    let _ ← field .integer
    let _ ← algorithm
    name
    fields do
      time
      time
    name
    separate <| fields do
      let _ ← algorithm
      let _ ← field .bitString
    let _ ← maybe (.context 1) (field (.context 1) .bitString)
    let _ ← maybe (.context 2) (field (.context 2) .bitString)
    let _ ← extensions (.context 3)
  return whole

/-- A certificate: its signed part as it stands, then its algorithm and signature written again. -/
def certificate : PartReader Octets :=
  fields do
    let body ← certificateBody
    let algorithm ← algorithm
    let signature ← field .bitString
    return encode .sequence true
      (body ++ algorithm ++ encode .bitString false (clearPadding signature))

/-- The extensions of a revocation list that number it, and the list that it goes on from. -/
def revocationNumbers : List ObjectId := [⟨[2, 5, 29, 20]⟩, ⟨[2, 5, 29, 27]⟩]

/-- An extension that holds a number occurs once at most, and its value begins with an integer. -/
def hasNumber (type : ObjectId) (extensions : List (ObjectId × Octets)) : Bool :=
  match extensions.filter (·.1 == type) with
  | [] => true
  | [(_, value)] => (((field .integer).run maxNesting).run value).isOk
  | _ => false

/-- A list of revoked certificates. -/
def revocationList : PartReader Unit :=
  fields do
    let found ← fields do
      let _ ← maybe .integer (field .integer)
      let _ ← algorithm
      name
      time
      if (← maybe .utcTime time).isNone then
        let _ ← maybe .generalizedTime time
      let _ ← maybe .sequence <| members .sequence <| fields do
        let _ ← field .integer
        time
        let _ ← maybe .sequence (members .sequence extension)
      extensions (.context 0)
    let _ ← algorithm
    let _ ← field .bitString
    if !revocationNumbers.all (hasNumber · found) then malformed

/-- Attributes under a tag, if they are there. -/
def attributes (tag : Tag) : PartReader Unit := do
  let _ ← maybe tag <| members tag <| fields do
    let _ ← field .objectId
    members .set anything

/-- Who signed: the issuer and the serial number of the signer's certificate. -/
def issuerAndSerial : PartReader Unit :=
  fields do
    name
    let _ ← field .integer

/-- What one signer adds to the message. -/
def signerInfo : PartReader Unit :=
  fields do
    let _ ← field .integer
    issuerAndSerial
    let _ ← algorithm
    attributes (.context 0)
    let _ ← algorithm
    let _ ← field .octetString
    attributes (.context 1)

/-- What one recipient needs to open the message. -/
def recipientInfo : PartReader Unit :=
  fields do
    let _ ← field .integer
    issuerAndSerial
    let _ ← algorithm
    let _ ← field .octetString

/-- A content that is encrypted, with its type and how. -/
def encryptedContent : PartReader Unit :=
  fields do
    let _ ← field .objectId
    let _ ← algorithm
    let _ ← maybe (.context 0) (field (.context 0) .octetString)

/-- Certificates and revocation lists, if they are there. -/
def collections : PartReader (Option (List Octets)) := do
  let certificates? ← maybe (.context 0) (members (.context 0) certificate)
  let _ ← maybe (.context 1) (members (.context 1) revocationList)
  return certificates?

/-- The content of a message of this type, with the certificates it carries; `inner` reads a message
inside it. -/
def content (type : ObjectId) (inner : PartReader Message) : PartReader (Option (List Octets)) := do
  if type = dataType then
    let _ ← field .octetString
    return none
  else if type = signedType then
    fields do
      let _ ← field .integer
      let _ ← members .set algorithm
      let _ ← inner
      let certificates? ← collections
      let _ ← members .set signerInfo
      return certificates?
  else if type = envelopedType then
    fields do
      let _ ← field .integer
      let _ ← members .set recipientInfo
      encryptedContent
      return none
  else if type = signedAndEnvelopedType then
    fields do
      let _ ← field .integer
      let _ ← members .set recipientInfo
      let _ ← members .set algorithm
      encryptedContent
      let _ ← collections
      let _ ← members .set signerInfo
      return none
  else if type = digestedType then
    fields do
      let _ ← field .integer
      let _ ← algorithm
      let _ ← inner
      let _ ← field .octetString
      return none
  else if type = encryptedType then
    fields do
      let _ ← field .integer
      encryptedContent
      return none
  else
    let _ ← anything
    return none

/-- A message. Each message inside another one is two levels further in, so fewer than `depth` contain one
another if `depth` is no less than the levels that may be entered. -/
def message : (depth : Nat) → PartReader Message
  | 0 => malformed
  | depth + 1 =>
    fields do
      let type ← objectId
      let certificates? ← maybe (.context 0) (explicit (.context 0) (content type (message depth)))
      return ⟨type, certificates?.getD none⟩

/-- The message at the front of a blob. -/
def message? (blob : Octets) : Option Message :=
  ((message maxNesting maxNesting).run' blob).toOption

end PeFacts.Envelope
