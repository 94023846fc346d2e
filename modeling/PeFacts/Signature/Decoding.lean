import PeFacts.Signature.Envelope
import PeFacts.Signature.Walk

/-!
# Decoding signature blobs

`SignatureReader.standard` decodes blobs: the certificates of an envelope are read one by one and
must all be well formed, and the first one whose version is unknown ends everything.
-/

namespace PeFacts

open Asn1

/-- The certificates that are encoded in these octets. -/
def readCertificates : List Octets → Except SignatureFault (Except BlobFault (List Certificate))
  | [] => .ok (.ok [])
  | der :: rest =>
    match Certificate.read? der with
    | none => .ok (.error .malformed)
    | some c =>
      if c.hasKnownVersion then (readCertificates rest).map fun cs => cs.map (c :: ·)
      else .error (.certificateVersion c.version)

namespace SignatureReader

/-- The certificates that a blob carries. Only signed data has a field for them. -/
def blobCertificates (blob : Octets) : Except SignatureFault (Except BlobFault (List Certificate)) :=
  match Envelope.message? blob with
  | none => .ok (.error .malformed)
  | some m =>
    if m.type = Envelope.signedType then
      match m.certificates? with
      | none => .ok (.error .malformed)
      | some certificates => readCertificates certificates
    else .ok (.error .unsupported)

/-- What is read of a blob, if it is well formed. Any other flaw ends the reading of all signatures. -/
def blobPart {α : Type} (r : Reader α) (blob : Octets) : Except SignatureFault (Option α) :=
  match r.run' blob with
  | .ok a => .ok (some a)
  | .error .malformed => .ok none
  | .error flaw => .error (.flaw flaw)

/-- The content of a blob; of signed data, its signers. -/
def blobContent : Reader BlobContent := do
  let (type, content?) ← Signer.message
  if type = Envelope.signedType then
    set (← present content?)
    return .signers (← Signer.signedData)
  else return .other type

/-- Decodes blobs as cryptographic messages. -/
def standard : SignatureReader where
  certificates := blobCertificates
  content := blobPart blobContent
  signer := blobPart Signer.signer

end SignatureReader

end PeFacts
