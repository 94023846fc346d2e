import PeFacts.Certificate.Part

/-!
# Certificates

A certificate is read under the distinguished rules, every part of it, though only a few fields are
kept. `Certificate.read?` answers `none` unless all parts are well formed.
-/

namespace PeFacts

open Asn1

/-- What is known of a certificate. -/
structure Certificate where
  /-- The whole certificate. -/
  der : Octets
  /-- The version field: zero for the first version. -/
  version : Nat
  serial : Int
  issuer : DistinguishedName
  subject : DistinguishedName
  notBefore : Moment
  notAfter : Moment
  /-- The algorithm that the outer signature names. -/
  algorithm : ObjectId
  deriving Repr, DecidableEq

namespace Certificate

open Certificate.Part

/-- The part of a certificate that is signed; the algorithm is filled in by the outer part. -/
def body : Reader (ObjectId → Octets → Certificate) :=
  Rules.distinguished.sequence do
    let version ← Rules.distinguished.optional (.context 0) <|
      Rules.distinguished.constructed (.context 0) (unlessDefault 0 (natural 0xFF))
    let serial ← integer
    let _ ← algorithmId
    let issuer ← name
    let (notBefore, notAfter) ← Rules.distinguished.sequence do
      let first ← time
      return (first, ← time)
    let subject ← name
    Rules.distinguished.sequence do
      let _ ← algorithmId
      bitString
    let _ ← Rules.distinguished.optional (.context 1) (bitString (.context 1))
    let _ ← Rules.distinguished.optional (.context 2) (bitString (.context 2))
    let _ ← Rules.distinguished.optional (.context 3) <|
      Rules.distinguished.constructed (.context 3) (Rules.distinguished.sequenceOf extension)
    return fun algorithm der =>
      { der, version := version.getD 0, serial, issuer, subject, notBefore, notAfter, algorithm }

/-- The certificate that the octets are. -/
def read? (der : Octets) : Option Certificate :=
  let whole : Reader Certificate := Rules.distinguished.sequence do
    let make ← body
    let algorithm ← algorithmId
    bitString
    return make algorithm der
  (within whole der).toOption

/-- The version is the first or the third. -/
def hasKnownVersion (c : Certificate) : Bool := c.version = 0 || c.version = 2

end Certificate

end PeFacts
