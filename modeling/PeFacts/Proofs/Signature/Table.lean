import PeFacts.Image
import PeFacts.Proofs.Signature.Run

/-!
# The walk of a certificate table

Which entries a certificate table has depends on the table alone, not on what their blobs hold:
`Image.signatureParts` gives the blobs and the problems of the table, and the signatures are read by
walking the blobs one after the other (`readSignatures_eq`). So what the table comes to is a run over
the traces of its blobs, and one blob in which a fault is met ends it.
-/

namespace PeFacts

open Asn1

namespace SignatureReader

variable (reader : SignatureReader)

/-- The walk of a blob of the table takes the steps of its trace. -/
theorem takes_blob (maxDepth : Int) (blob : Octets) :
    Takes (reader.walk maxDepth blob .signer 0)
      (reader.trace maxDepth (maxDepth + 1).toNat blob .signer) := by
  intro w
  rw [walk, Int.sub_zero]
  exact reader.takes_walk _ _ _ _ w

/-- Whatever is noted in walking blobs is a problem of a blob. -/
theorem ofBlob_of_walked {maxDepth : Int} {blobs : List Octets} {w : Walked}
    (walked : blobs.foldlM (fun w blob => reader.walk maxDepth blob .signer 0 w) {} = .ok w)
    {p : Problem} (noted : p ∈ w.problems.toList) : p.ofBlob := by
  have takes : Takes (blobs.foldlM fun w blob => reader.walk maxDepth blob .signer 0 w)
      (blobs.flatMap fun blob => reader.trace maxDepth (maxDepth + 1).toNat blob .signer) :=
    .foldlM fun blob _ => reader.takes_blob maxDepth blob
  rcases mem_problems_of_run ((takes {}).symm.trans walked) noted with before | ⟨m, there, met⟩
  · cases before
  · obtain ⟨blob, -, there⟩ := List.mem_flatMap.1 there
    obtain ⟨v, -, own⟩ := mem_trace_iff.1 there
    match m with
    | .error fault => cases met
    | .ok (.problem q) =>
      cases met
      exact ofBlob_of_mem_own own
    | .ok (.certificate c kind) =>
      rw [problemMet?] at met
      split at met
      · cases met
      · cases met
        rfl

end SignatureReader

namespace CertificateTable

/-- The signature blobs of the entries from `off` on, as long as `left` allows, and the problems of
the table. -/
def Source.partsFrom (src : Source) (off : Nat) : (left : Nat) → List Octets × List Problem
  | 0 =>
    if src.stop < off + headerSize then ([], [])
    else ([], [.tooManyCertificates src.maxCertificates])
  | left + 1 =>
    let length := src.data.number off 4
    if src.stop < off + headerSize then ([], [])
    else if length < headerSize ∨ src.stop < off + length then ([], [.badCertificateEntry off length])
    else
      let blob := (src.data.extract (off + headerSize) (off + length)).toList
      let rest := src.partsFrom (off + align8 length) left
      (if src.data.number (off + 6) 2 = signatureType then blob :: rest.1 else rest.1, rest.2)

/-- The signature blobs of the table at `offset`, and the problems of the table. -/
def parts (data : Bytes) (offset size maxCertificates maxDepth : Int) (reader : SignatureReader) :
    List Octets × List Problem :=
  match Address.checkedSum [some offset, some size] with
  | none => ([], [.securityOutside offset size])
  | some stop =>
    if offset ≥ data.size then ([], [.securityOutside offset size])
    else
      let truncated := if stop > data.size then [Problem.securityTruncated offset.toNat] else []
      let src : Source := { data, reader, maxCertificates, maxDepth, stop := min stop.toNat data.size }
      if maxCertificates < 0 then ([], truncated)
      else
        let entries := src.partsFrom offset.toNat maxCertificates.toNat
        (entries.1, truncated ++ entries.2)

/-- Whatever is noted of the entries is a problem of the table. -/
theorem Source.ofTable_of_mem_partsFrom {src : Source} {off left : Nat} {p : Problem}
    (there : p ∈ (src.partsFrom off left).2) : p.ofTable := by
  induction left generalizing off with
  | zero =>
    unfold partsFrom at there
    split at there
    · cases there
    · cases List.mem_singleton.1 there
      rfl
  | succ left ih =>
    unfold partsFrom at there
    dsimp only at there
    split at there
    · cases there
    · split at there
      · cases List.mem_singleton.1 there
        rfl
      · exact ih there

theorem ofTable_of_mem_parts {data : Bytes} {offset size maxCertificates maxDepth : Int}
    {reader : SignatureReader} {p : Problem}
    (there : p ∈ (parts data offset size maxCertificates maxDepth reader).2) : p.ofTable := by
  unfold parts at there
  split at there
  · cases List.mem_singleton.1 there
    rfl
  next stop _ =>
    split at there
    · cases List.mem_singleton.1 there
      rfl
    have truncated (there : p ∈ if stop > data.size then [Problem.securityTruncated offset.toNat]
        else []) : p.ofTable := by
      split at there
      · cases List.mem_singleton.1 there
        rfl
      · cases there
    dsimp only at there
    split at there
    · exact truncated there
    · rcases List.mem_append.1 there with first | second
      · exact truncated first
      · exact Source.ofTable_of_mem_partsFrom second

/-- The entries are walked one after the other. -/
theorem entriesFrom_eq (src : Source) (off left : Nat) (w : Walked) :
    src.entriesFrom off left w =
      ((src.partsFrom off left).1.foldlM
        (fun w blob => src.reader.walk src.maxDepth blob .signer 0 w) w).map
          fun w => ((src.partsFrom off left).2, w) := by
  induction left generalizing off w with
  | zero =>
    unfold Source.entriesFrom Source.partsFrom
    split <;> rfl
  | succ left ih =>
    unfold Source.entriesFrom Source.partsFrom
    dsimp only
    split
    · rfl
    split
    · rfl
    split
    · simp only [ih, List.foldlM_cons]
      cases src.reader.walk src.maxDepth _ .signer 0 w <;> rfl
    · simp only [ih]
      rfl

theorem read_eq (data : Bytes) (offset size maxCertificates maxDepth : Int)
    (reader : SignatureReader) :
    read data offset size maxCertificates maxDepth reader =
      ((parts data offset size maxCertificates maxDepth reader).1.foldlM
        (fun w blob => reader.walk maxDepth blob .signer 0 w) {}).map fun w =>
          (w.found.toList,
            (parts data offset size maxCertificates maxDepth reader).2 ++ w.problems.toList) := by
  unfold read parts
  cases Address.checkedSum [some offset, some size] with
  | none => rfl
  | some stop =>
    dsimp only
    split
    · rfl
    split
    · simp [pure, Except.pure, Except.map]
    · simp only [entriesFrom_eq, List.append_assoc]
      cases (Source.partsFrom _ _ _).1.foldlM (m := Except SignatureFault) _ _ <;> rfl

/-- What is noted in reading a table are the problems of the table, then those of its blobs. -/
theorem problems_of_read {data : Bytes} {offset size maxCertificates maxDepth : Int}
    {reader : SignatureReader} {records : List SignatureRecord} {problems : List Problem}
    (found : read data offset size maxCertificates maxDepth reader = .ok (records, problems)) :
    ∃ ofBlobs : List Problem, (∀ p ∈ ofBlobs, p.ofBlob) ∧
      problems = (parts data offset size maxCertificates maxDepth reader).2 ++ ofBlobs := by
  rw [read_eq] at found
  cases walked : (parts data offset size maxCertificates maxDepth reader).1.foldlM
      (fun w blob => reader.walk maxDepth blob .signer 0 w) {} with
  | error fault =>
    rw [walked] at found
    cases found
  | ok w =>
    rw [walked] at found
    cases found
    exact ⟨w.problems.toList, fun p noted => reader.ofBlob_of_walked walked noted, rfl⟩

end CertificateTable

namespace Image

variable (i : Image)

/-- The signature blobs of an image, and the problems of the table that they stand in. -/
def signatureParts : List Octets × List Problem :=
  let security := i.directory securityDirectory
  if i.isMapped || security.address = 0 || security.size = 0 then ([], [])
  else
    CertificateTable.parts i.data security.address security.size i.limits.maxCertificates
      i.limits.maxSignatureDepth i.reader

/-- The signature blobs of an image, in the order in which they stand. -/
def signatureBlobs : List Octets := i.signatureParts.1

/-- The visit of a signature blob. -/
def visit (blob : Octets) : Visit := ⟨(i.limits.maxSignatureDepth + 1).toNat, blob, .signer⟩

/-- What the walk of a signature blob meets. -/
def trace (blob : Octets) : List Meeting :=
  i.reader.trace i.limits.maxSignatureDepth (i.visit blob).levels blob .signer

/-- What the walk of all signature blobs meets. -/
def met : List Meeting := i.signatureBlobs.flatMap i.trace

/-- The walk of a signature blob ends the reading of all signatures. -/
def Ends (blob : Octets) : Prop :=
  ∃ v, Reaches i.reader (i.visit blob) v ∧ 0 < v.levels ∧ i.reader.Unreadable v.blob

/-- No signature blob ends the reading. -/
def GoesOn : Prop := ∀ blob ∈ i.signatureBlobs, ¬ i.Ends blob

end Image

variable {i : Image}

theorem takes_visit (i : Image) (blob : Octets) :
    Takes (i.reader.walk i.limits.maxSignatureDepth blob .signer 0) (i.trace blob) :=
  i.reader.takes_blob _ _

/-- The signatures are read in one run over what the blobs meet. -/
theorem readSignatures_eq (i : Image) :
    i.readSignatures = (i.met.foldlM Walked.step {}).map fun w =>
      (w.found.toList, i.signatureParts.2 ++ w.problems.toList) := by
  have walks : Takes (i.signatureBlobs.foldlM fun w blob =>
      i.reader.walk i.limits.maxSignatureDepth blob .signer 0 w) i.met :=
    .foldlM fun blob _ => takes_visit i blob
  rw [← walks]
  unfold Image.readSignatures Image.signatureBlobs Image.signatureParts
  dsimp only
  split
  · rfl
  · rw [CertificateTable.read_eq]

/-- A blob ends the reading of all signatures exactly when its walk meets a fault. -/
theorem ends_iff (documented : i.reader.Documented) {blob : Octets} :
    i.Ends blob ↔ ∃ fault, .error fault ∈ i.trace blob :=
  (SignatureReader.exists_fault_mem_trace_iff documented).symm

/-- What a walk meets on its way is among what is met. -/
theorem mem_met_of_reaches {blob : Octets} (there : blob ∈ i.signatureBlobs) {v : Visit}
    (reached : Reaches i.reader (i.visit blob) v) {m : Meeting}
    (own : m ∈ i.reader.own i.limits.maxSignatureDepth v) : m ∈ i.met :=
  List.mem_flatMap.2 ⟨blob, there, SignatureReader.mem_trace_iff.2 ⟨v, reached, own⟩⟩

theorem legible_of_mem_met (documented : i.reader.Documented) {c : Certificate}
    {kind : SignatureKind} (there : .ok (.certificate c kind) ∈ i.met) : c.Legible := by
  obtain ⟨blob, -, there⟩ := List.mem_flatMap.1 there
  exact SignatureReader.legible_of_mem_trace documented there

/-- The reading goes on exactly when no fault is met. -/
theorem goesOn_iff (documented : i.reader.Documented) :
    i.GoesOn ↔ ∀ fault, .error fault ∉ i.met := by
  constructor
  · intro goesOn fault there
    obtain ⟨blob, hb, there⟩ := List.mem_flatMap.1 there
    exact goesOn blob hb ((ends_iff documented).2 ⟨fault, there⟩)
  · intro sound blob hb ends
    obtain ⟨fault, there⟩ := (ends_iff documented).1 ends
    exact sound fault (List.mem_flatMap.2 ⟨blob, hb, there⟩)

end PeFacts
