import PeFacts.Address
import PeFacts.Signature.Decoding

/-!
# The certificate table

The security directory is a run of entries, each with its length, a revision and a type before a
signature blob, and each starting at a multiple of eight octets. Its address is a position in the
file. `CertificateTable.read` walks the blobs of all entries into one list of records.
-/

namespace PeFacts.CertificateTable

/-- The size of an entry before its blob. -/
def headerSize : Nat := 8

/-- The type of an entry whose blob is a signature. -/
def signatureType : Nat := 2

/-- The least multiple of eight that is not below `n`. -/
def align8 (n : Nat) : Nat := (n + 7) / 8 * 8

/-- What the table is read from; it ends at `stop`. -/
structure Source where
  data : Bytes
  reader : SignatureReader
  maxCertificates : Int
  maxDepth : Int
  stop : Nat

/-- Reads entries from `off` on, as long as `left` allows. Problems of the table and of its blobs are
kept apart. -/
def Source.entriesFrom (src : Source) (off : Nat) :
    (left : Nat) → Walked → Except SignatureFault (List Problem × Walked)
  | left, w =>
    if src.stop < off + headerSize then .ok ([], w)
    else
      match left with
      | 0 => .ok ([.tooManyCertificates src.maxCertificates], w)
      | left + 1 =>
        let length := src.data.number off 4
        if length < headerSize ∨ src.stop < off + length then
          .ok ([.badCertificateEntry off length], w)
        else do
          let blob := (src.data.extract (off + headerSize) (off + length)).toList
          let w ←
            if src.data.number (off + 6) 2 = signatureType then
              src.reader.walk src.maxDepth blob .signer 0 w
            else pure w
          src.entriesFrom (off + align8 length) left w

/-- The records of the table at `offset`, with the problems met: those of the table come first. -/
def read (data : Bytes) (offset size maxCertificates maxDepth : Int)
    (reader : SignatureReader := .standard) :
    Except SignatureFault (List SignatureRecord × List Problem) :=
  match Address.checkedSum [some offset, some size] with
  | none => .ok ([], [.securityOutside offset size])
  | some stop =>
    if offset ≥ data.size then .ok ([], [.securityOutside offset size])
    else do
      let truncated := if stop > data.size then [Problem.securityTruncated offset.toNat] else []
      let src : Source := { data, reader, maxCertificates, maxDepth, stop := min stop.toNat data.size }
      if maxCertificates < 0 then return ([], truncated)
      let (problems, w) ← src.entriesFrom offset.toNat maxCertificates.toNat {}
      return (w.found.toList, truncated ++ problems ++ w.problems.toList)

end PeFacts.CertificateTable
