import PeFacts.Certificate
import PeFacts.Digest
import PeFacts.Value

/-!
# Signature records

What is reported of a certificate that a signature names or carries.
-/

namespace PeFacts

open Asn1

/-- The part that a certificate plays in a signature. -/
inductive SignatureKind
  /-- It belongs to a signer. -/
  | signer
  /-- It belongs to a signer of a signature inside another one. -/
  | nested
  /-- It belongs to one who signed a signature, such as a time stamp. -/
  | countersigner
  /-- It is carried by a signature whose signers are unreadable. -/
  | certificate
  /-- A part that the caller names. -/
  | named (word : String)
  deriving Repr, DecidableEq

/-- The word for a part in reports. -/
def SignatureKind.name : SignatureKind → String
  | .signer => "signer"
  | .nested => "nested"
  | .countersigner => "countersigner"
  | .certificate => "certificate"
  | .named word => word

/-- What is reported of a certificate. Times are seconds since the start of 1970. -/
structure SignatureRecord where
  issuer : String
  subject : String
  version : Nat
  algorithm : String
  serial : String
  notBefore : Int
  notAfter : Int
  /-- The SHA-1 digest of the certificate. -/
  thumbprint : String
  kind : SignatureKind
  deriving Repr, DecidableEq

namespace SignatureRecord

/-- The magnitude of a serial number, octet by octet in hexadecimal. -/
def serialText (serial : Int) : String :=
  ":".intercalate ((octetsOf serial.natAbs).map fun b => Bytes.hex #[b])

/-- The certificate is valid at this time. -/
def validOn (r : SignatureRecord) (time : Int) : Bool := r.notBefore ≤ time && time ≤ r.notAfter

/-- The record of a certificate. A year zero has no time, and a name may have no text. -/
def ofCertificate (c : Certificate) (kind : SignatureKind) : Except NameFault SignatureRecord := do
  if c.notBefore.year = 0 || c.notAfter.year = 0 then throw .unreadable
  let issuer ← c.issuer.text
  let subject ← c.subject.text
  return {
    issuer, subject, kind
    version := c.version + 1
    algorithm := Algorithm.signatureName c.algorithm
    serial := serialText c.serial
    notBefore := c.notBefore.unixSeconds
    notAfter := c.notAfter.unixSeconds
    thumbprint := Digest.sha1 c.der.toArray }

/-- The record as a plain value. -/
def toValue (r : SignatureRecord) : Value :=
  .record [
    ("issuer", .text r.issuer),
    ("subject", .text r.subject),
    ("version", .nat r.version),
    ("algorithm", .text r.algorithm),
    ("serial", .text r.serial),
    ("not_before", .int r.notBefore),
    ("not_after", .int r.notAfter),
    ("thumbprint", .text r.thumbprint),
    ("kind", .text r.kind.name)]

end SignatureRecord

end PeFacts
