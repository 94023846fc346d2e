import PeFacts.Limits
import PeFacts.Reading
import PeFacts.Signature.Record
import PeFacts.Signature.Signer

/-!
# Walking signatures

A signature blob names its signers, and a signer may carry further blobs: nested signatures and time
stamps, which are blobs of the same form, and countersignatures. `SignatureReader.walk` visits them
in the order in which they stand, each before what it carries, down to a given depth, and keeps the
first 64 records. How a blob is decoded is a parameter, a `SignatureReader`.
-/

namespace PeFacts

open Asn1

/-- What ends the reading of all signatures at once. -/
inductive SignatureFault
  /-- A certificate has a version that is none. -/
  | certificateVersion (version : Nat)
  /-- A name that had to be compared or reported has no text. -/
  | name (fault : NameFault)
  /-- A blob is not merely malformed. -/
  | flaw (flaw : Flaw)
  deriving Repr, DecidableEq

/-- What a blob holds besides certificates. -/
inductive BlobContent
  /-- The signers of signed data. -/
  | signers (signers : List Signer)
  /-- Something of another type. -/
  | other (type : ObjectId)
  deriving Repr, DecidableEq

/-- How blobs are decoded. -/
structure SignatureReader where
  /-- The certificates that a blob carries. -/
  certificates : Octets → Except SignatureFault (Except BlobFault (List Certificate))
  /-- The content of a blob, if it can be read. -/
  content : Octets → Except SignatureFault (Option BlobContent)
  /-- The signer that a countersignature is, if it can be read. -/
  signer : Octets → Except SignatureFault (Option Signer)

/-- The length of the element at the front of a blob, if it has a length of at most four octets and
fits in the blob. -/
def derLength? (blob : Octets) : Option Nat :=
  match blob with
  | _ :: first :: rest =>
    let total? :=
      if first < 0x80 then some (2 + first.toNat)
      else
        let n := first.toNat % 0x80
        if n = 0 ∨ 4 < n ∨ rest.length < n then none else some (2 + n + bigEndian (rest.take n))
    total?.filter (· ≤ blob.length)
  | _ => none

/-- The most records that are kept. -/
def maxSignatureRecords : Nat := 64

/-- The attribute that holds countersignatures. -/
def countersignatureAttribute : ObjectId := ⟨[1, 2, 840, 113549, 1, 9, 6]⟩

/-- The attribute that holds nested signatures. -/
def nestedAttribute : ObjectId := ⟨[1, 3, 6, 1, 4, 1, 311, 2, 4, 1]⟩

/-- The attribute that holds time stamps. -/
def timestampAttribute : ObjectId := ⟨[1, 3, 6, 1, 4, 1, 311, 3, 3, 1]⟩

/-- Records kept and problems met. -/
abbrev Walked := Reading SignatureRecord

/-- The walk with one more certificate, unless there are enough. -/
def Walked.add (w : Walked) (c : Certificate) (kind : SignatureKind) :
    Except SignatureFault Walked :=
  if maxSignatureRecords ≤ w.found.size then .ok w
  else
    match SignatureRecord.ofCertificate c kind with
    | .ok r => .ok (w.keep r)
    | .error .unreadable => .ok (w.report .certificateFieldsUnreadable)
    | .error fault => .error (.name fault)

/-- The first of the certificates that has this issuer. Its name must have a text, and so must the
names before it. -/
def firstIssuedBy (issuer : Octets) : List Certificate → Except SignatureFault (Option Certificate)
  | [] => .ok none
  | c :: rest =>
    match c.issuer.text with
    | .error fault => .error (.name fault)
    | .ok _ => if c.issuer.der = issuer then .ok (some c) else firstIssuedBy issuer rest

/-- The certificate of a signer: the one with its serial number, of several the first that has its
issuer, or else the first. -/
def Signer.certificate? (s : Signer) (certificates : List Certificate) :
    Except SignatureFault (Option Certificate) :=
  match certificates.filter fun c => c.serial == s.serial with
  | [] => .ok none
  | [c] => .ok (some c)
  | c :: rest => (firstIssuedBy s.issuer (c :: rest)).map fun found? => some (found?.getD c)

namespace SignatureReader

/-- Visits a countersignature, whose certificate is among those of the blob around it. -/
def visitCountersigner (reader : SignatureReader) (blob : Octets) (certificates : List Certificate)
    (w : Walked) : Except SignatureFault Walked := do
  match ← reader.signer blob with
  | none => return w.report .countersignatureUnreadable
  | some s =>
    match ← s.certificate? certificates with
    | none => return w.report .countersignerCertificateMissing
    | some c => w.add c .countersigner

/-- Visits one value of an attribute; `inner` visits a blob one level deeper. -/
def visitAttribute (reader : SignatureReader)
    (inner : Octets → SignatureKind → Walked → Except SignatureFault Walked)
    (certificates : List Certificate) (type : ObjectId) (w : Walked) (value : Octets) :
    Except SignatureFault Walked :=
  if type = nestedAttribute then inner value .nested w
  else if type = timestampAttribute then inner value .countersigner w
  else if type = countersignatureAttribute then reader.visitCountersigner value certificates w
  else .ok w

/-- Visits a signer and then what its attributes hold. -/
def visitSigner (reader : SignatureReader)
    (inner : Octets → SignatureKind → Walked → Except SignatureFault Walked)
    (certificates : List Certificate) (kind : SignatureKind) (w : Walked) (s : Signer) :
    Except SignatureFault Walked := do
  let w ← match ← s.certificate? certificates with
    | none => pure (w.report .signerCertificateMissing)
    | some c => w.add c kind
  s.attributes.foldlM (fun w (type, values) =>
    values.foldlM (reader.visitAttribute inner certificates type) w) w

/-- Visits a blob; `levels` is how many more levels may be entered, this one included, and `maxDepth`
is what is reported when there is none. -/
def walkLevels (reader : SignatureReader) (maxDepth : Int) :
    (levels : Nat) → Octets → SignatureKind → Walked → Except SignatureFault Walked
  | 0, _, _, w => .ok (w.report (.signatureTooDeep maxDepth))
  | levels + 1, blob, kind, w =>
    match derLength? blob with
    | none => .ok (w.report .signatureNotDer)
    | some size => do
      let blob := blob.take size
      let (certificates, w) := match ← reader.certificates blob with
        | .ok certificates => (certificates, w)
        | .error fault => ([], w.report (.certificatesUnreadable fault))
      match ← reader.content blob with
      | none =>
        certificates.foldlM (fun w c => w.add c .certificate) (w.report .signerInfoUnreadable)
      | some (.other type) => return w.report (.notSignedData type.text)
      | some (.signers signers) =>
        signers.foldlM (reader.visitSigner (reader.walkLevels maxDepth levels) certificates kind) w

/-- Visits a blob that is at `depth`; blobs deeper than `maxDepth` are not entered. -/
def walk (reader : SignatureReader) (maxDepth : Int) (blob : Octets) (kind : SignatureKind)
    (depth : Int) (w : Walked) : Except SignatureFault Walked :=
  reader.walkLevels maxDepth (maxDepth + 1 - depth).toNat blob kind w

end SignatureReader

end PeFacts
