import Mathlib.Data.List.Basic
import PeFacts.Proofs.Session
import PeFacts.Proofs.Signature.Table
import PeFacts.Scan

/-!
# Signatures of any file

What reading the signatures of a file comes to when the decoders fail as they are documented to. A
blob that is `Unreadable`, however deep it stands in whichever entry of the table, ends every access
that asks for the signatures. Without one, all such accesses answer: the records of every entry are
there, and whatever went wrong in a blob is a problem.
-/

namespace PeFacts

open Asn1

namespace Image

/-- The records of a signature blob that is read by itself. -/
def recordsOf (i : Image) (blob : Octets) : List SignatureRecord :=
  match i.reader.walk i.limits.maxSignatureDepth blob .signer 0 {} with
  | .ok w => w.found.toList
  | .error _ => []

/-- The records of all signature blobs, as many as are kept. -/
def records (i : Image) : List SignatureRecord :=
  (i.signatureBlobs.flatMap i.recordsOf).take maxSignatureRecords

end Image

variable {i : Image}

/-- A blob that ends the reading leaves nothing but its fault. -/
theorem readSignatures_fails (documented : i.reader.Documented) (ends : ¬ i.GoesOn) :
    ∃ fault : SignatureFault, fault.Uncaught ∧ i.readSignatures = .error fault := by
  rw [goesOn_iff documented] at ends
  obtain ⟨fault, there⟩ := Classical.not_forall_not.1 ends
  obtain ⟨first, there, failed⟩ :=
    fails_of_fault i.met {} (Nat.zero_le _) there fun c kind => legible_of_mem_met documented
  obtain ⟨blob, -, there⟩ := List.mem_flatMap.1 there
  refine ⟨first, SignatureReader.uncaught_of_mem_trace documented there, ?_⟩
  rw [readSignatures_eq, failed]
  rfl

/-- Without such a blob the signatures are read in full. -/
theorem readSignatures_ran (documented : i.reader.Documented) (goesOn : i.GoesOn) :
    ∃ w, Ran {} i.met w ∧
      i.readSignatures = .ok (w.found.toList, i.signatureParts.2 ++ w.problems.toList) := by
  obtain ⟨w, done, ran⟩ :=
    ran_of_legible i.met {} (Nat.zero_le _) ((goesOn_iff documented).1 goesOn)
      fun c kind => legible_of_mem_met documented
  refine ⟨w, ran, ?_⟩
  rw [readSignatures_eq, done]
  rfl

theorem recordsOf_eq (documented : i.reader.Documented) {blob : Octets} (goesOn : ¬ i.Ends blob) :
    i.recordsOf blob = ((i.trace blob).filterMap recordMet?).take maxSignatureRecords := by
  rw [ends_iff documented, not_exists] at goesOn
  obtain ⟨w, done, ran⟩ :=
    ran_of_legible (i.trace blob) {} (Nat.zero_le _) goesOn
      fun c kind => SignatureReader.legible_of_mem_trace documented
  rw [Image.recordsOf, takes_visit i blob, done]
  simpa using ran.found

/-- What is kept is what the blobs give by themselves. -/
theorem records_eq (documented : i.reader.Documented) (goesOn : i.GoesOn) {w : Walked}
    (ran : Ran {} i.met w) : w.found.toList = i.records := by
  have alone : i.signatureBlobs.flatMap i.recordsOf = i.signatureBlobs.flatMap fun blob =>
      ((i.trace blob).filterMap recordMet?).take maxSignatureRecords :=
    List.flatMap_congr fun blob there => recordsOf_eq documented (goesOn blob there)
  rw [Image.records, alone, take_flatMap_take, ran.found, Image.met, List.filterMap_flatMap]
  rfl

/-! ## Accesses -/

/-- What the signatures of an image come to. -/
structure ReadsSignatures (i : Image) : Prop where
  /-- A blob that ends the reading ends every access that asks for the signatures, each time. -/
  ends : ¬ i.GoesOn → ∃ fault : SignatureFault, fault.Uncaught ∧
    ∀ past q, .signatures ∈ i.asks q → (i.ask q (i.after past)).1 = .error (.signatures fault)
  /-- Without one, every such access has an answer. -/
  answers : i.GoesOn → ∀ past q, .signatures ∈ i.asks q →
    ∃ v, (i.ask q (i.after past)).1 = .ok v
  /-- The records are those that each blob gives by itself. -/
  records : i.GoesOn → ∀ past,
    (i.ask (.fact .signatures) (i.after past)).1 =
      .ok (.list (i.records.map SignatureRecord.toValue))
  /-- Among them are those of all certificates that a walk comes to, unless there are enough. -/
  found : i.GoesOn → ∀ blob ∈ i.signatureBlobs, ∀ v, Reaches i.reader (i.visit blob) v →
    ∀ m ∈ i.reader.own i.limits.maxSignatureDepth v, ∀ r, recordMet? m = some r →
      r ∈ i.records ∨ i.records.length = maxSignatureRecords
  /-- Whatever goes wrong in a blob is a problem, unless there are enough records to pass over the
  certificate. -/
  noted : i.GoesOn → ∀ past q, .signatures ∈ i.asks q →
    ∀ blob ∈ i.signatureBlobs, ∀ v, Reaches i.reader (i.visit blob) v →
      ∀ m ∈ i.reader.own i.limits.maxSignatureDepth v, ∀ p, problemMet? m = some p →
        p ∈ (i.after (past ++ [q])).problems ∨
        p = .certificateFieldsUnreadable ∧ i.records.length = maxSignatureRecords
  /-- Nothing else is noted of the signatures, apart from the problems of the table. -/
  nothingElse : ∀ p ∈ i.block .signatures, p ∈ i.signatureParts.2 ∨
    ∃ blob ∈ i.signatureBlobs, ∃ v, Reaches i.reader (i.visit blob) v ∧
      ∃ m ∈ i.reader.own i.limits.maxSignatureDepth v, problemMet? m = some p

theorem readsSignatures (documented : i.reader.Documented) : ReadsSignatures i where
  ends ends := by
    obtain ⟨fault, uncaught, failed⟩ := readSignatures_fails documented ends
    refine ⟨fault, uncaught, fun past q asked => ?_⟩
    refine (ask_settles i past (ofPart_of_signatures asked)).fails asked ?_
    rw [Image.holding, failed]
    rfl
  answers goesOn past q asked := by
    obtain ⟨w, -, read⟩ := readSignatures_ran documented goesOn
    refine (ask_settles i past (ofPart_of_signatures asked)).answers fun _ => ?_
    rw [Image.readable, Image.holding, read]
    rfl
  records goesOn past := by
    obtain ⟨w, ran, read⟩ := readSignatures_ran documented goesOn
    have run := run_view i .signatures
      (fun records => Value.list (records.map SignatureRecord.toValue)) past
    rw [Image.holding, read] at run
    rw [← records_eq documented goesOn ran]
    exact run
  found goesOn blob there v reached m own r met := by
    obtain ⟨w, ran, -⟩ := readSignatures_ran documented goesOn
    have found := ran.found_or_full (mem_met_of_reaches there reached own) met
    rwa [← Array.length_toList, records_eq documented goesOn ran] at found
  noted goesOn past q asked blob there v reached m own p met := by
    obtain ⟨w, ran, read⟩ := readSignatures_ran documented goesOn
    have holds : i.holding .signatures =
        .ok (w.found.toList, i.signatureParts.2 ++ w.problems.toList) := by
      rw [Image.holding, read]
      rfl
    rcases ran.noted_or_full (mem_met_of_reaches there reached own) met with noted | ⟨unreadable, full⟩
    · left
      refine block_subset_after (by rw [Image.readable, holds]; rfl) past asked ?_
      rw [Image.block, holds]
      exact List.mem_append_right _ noted
    · right
      rw [← records_eq documented goesOn ran, Array.length_toList]
      exact ⟨unreadable, full⟩
  nothingElse p there := by
    rcases Classical.em i.GoesOn with goesOn | ends
    · obtain ⟨w, ran, read⟩ := readSignatures_ran documented goesOn
      obtain ⟨ps, noted, sub, -⟩ := ran.noted
      rw [Image.block, Image.holding, read] at there
      refine (List.mem_append.1 there).imp_right fun inBlob => ?_
      rw [noted] at inBlob
      obtain ⟨m, traced, met⟩ := List.mem_filterMap.1 (sub.subset inBlob)
      obtain ⟨blob, hb, traced⟩ := List.mem_flatMap.1 traced
      obtain ⟨v, reached, own⟩ := SignatureReader.mem_trace_iff.1 traced
      exact ⟨blob, hb, v, reached, m, own, met⟩
    · obtain ⟨fault, -, failed⟩ := readSignatures_fails documented ends
      rw [Image.block, Image.holding, failed] at there
      cases there

/-- What is no image has no signature blobs. -/
theorem signatureBlobs_of_not_isPe (h : i.isPe = false) : i.signatureBlobs = [] := by
  have absent : i.header? = none := by simpa [Image.isPe] using h
  simp [Image.signatureBlobs, Image.signatureParts, Image.directory, absent]

/-- A snapshot is taken unless a blob ends the reading of the signatures. -/
theorem snapshot_iff (documented : i.reader.Documented) :
    (∃ v, (i.ask .snapshot (Session.start i)).1 = .ok v) ↔ i.GoesOn := by
  have reads := readsSignatures documented
  cases image : i.isPe with
  | false =>
    have untouched : i.asks .snapshot = [] := by simp [Image.asks, image]
    have settles := ask_settles i [] (q := .snapshot) rfl
    rw [untouched] at settles
    have goesOn : i.GoesOn := by
      intro blob there
      rw [signatureBlobs_of_not_isPe image] at there
      cases there
    exact iff_of_true (settles.answers fun asked => absurd asked List.not_mem_nil) goesOn
  | true =>
    have asked : .signatures ∈ i.asks .snapshot := by
      rw [Image.asks, if_pos image]
      exact Directory.mem_all _
    constructor
    · rintro ⟨v, answer⟩ blob there ends
      obtain ⟨fault, -, failed⟩ := reads.ends fun goesOn => goesOn blob there ends
      cases answer.symm.trans (failed [] .snapshot asked)
    · exact fun goesOn => reads.answers goesOn [] .snapshot asked

/-- A file is reported on exactly when a snapshot of what was read of it is taken. -/
theorem report_iff {path : String} {file data : Bytes} {now version : String} {settings : Settings}
    {truncated : Bool} {reader : SignatureReader}
    (read : Scan.firstBytes file settings.maxFileSize = .ok (data, truncated)) :
    (∃ r, Scan.report path file now .file settings version reader = .ok r) ↔
      ∃ v, ((Image.read data .file settings.limits reader).ask .snapshot
        (Session.start (Image.read data .file settings.limits reader))).1 = .ok v := by
  have opened : Scan.imageOf data .file settings.limits reader =
      .ok (Image.read data .file settings.limits reader) := by
    rw [Scan.imageOf, Image.load_eq]
    rfl
  generalize Image.read data .file settings.limits reader = i at opened
  have taken : i.snapshot.run (Session.start i) = i.ask .snapshot (Session.start i) := rfl
  simp only [Scan.report, read, bind, Except.bind, opened, Scan.firstAccess, taken]
  cases i.ask .snapshot (Session.start i) with
  | mk answer session => cases answer <;> simp [pure, Except.pure]

/-- Reading the signatures of a file raises exactly when a walk enters an unreadable blob. -/
theorem signatures_end_only_at_unreadable_blobs (data : Bytes) (limits : Limits)
    (reader : SignatureReader) (documented : reader.Documented) :
    ∃ i, Image.load data .file limits reader = .ok i ∧ ReadsSignatures i ∧
      ∀ path file now settings version truncated, settings.limits = limits →
        Scan.firstBytes file settings.maxFileSize = .ok (data, truncated) →
        ((∃ r, Scan.report path file now .file settings version reader = .ok r) ↔ i.GoesOn) := by
  have documented' : (Image.read data .file limits reader).reader.Documented := by
    rwa [Image.read_reader]
  refine ⟨_, Image.load_eq data .file limits reader, readsSignatures documented', ?_⟩
  rintro path file now settings version truncated rfl read
  rw [report_iff read, snapshot_iff documented']

/-- A message without signers that carries one certificate, of a version between the first and the
third. -/
def secondVersionBlob : Octets :=
  [0x30, 0x72, 0x06, 0x09, 0x2A, 0x86, 0x48, 0x86, 0xF7, 0x0D, 0x01, 0x07, 0x02, 0xA0, 0x65, 0x30,
   0x63, 0x02, 0x01, 0x01, 0x31, 0x00, 0x30, 0x0B, 0x06, 0x09, 0x2A, 0x86, 0x48, 0x86, 0xF7, 0x0D,
   0x01, 0x07, 0x01, 0xA0, 0x4D, 0x30, 0x4B, 0x30, 0x3F, 0xA0, 0x03, 0x02, 0x01, 0x01, 0x02, 0x01,
   0x01, 0x30, 0x05, 0x06, 0x03, 0x2B, 0x65, 0x70, 0x30, 0x00, 0x30, 0x1E, 0x17, 0x0D, 0x30, 0x30,
   0x30, 0x31, 0x30, 0x31, 0x30, 0x30, 0x30, 0x30, 0x30, 0x30, 0x5A, 0x17, 0x0D, 0x30, 0x30, 0x30,
   0x31, 0x30, 0x31, 0x30, 0x30, 0x30, 0x30, 0x30, 0x30, 0x5A, 0x30, 0x00, 0x30, 0x0A, 0x30, 0x05,
   0x06, 0x03, 0x2B, 0x65, 0x70, 0x03, 0x01, 0x00, 0x30, 0x05, 0x06, 0x03, 0x2B, 0x65, 0x70, 0x03,
   0x01, 0x00, 0x31, 0x00]

/-- The smallest headers with a security directory, and a certificate table with one entry. -/
def secondVersionFile : Bytes :=
  ([0x4D, 0x5A, 0x00, 0x00, 0x50, 0x45, 0x00, 0x00, 0x4C, 0x01] ++ List.replicate 14 0 ++
    [0x88, 0x00, 0x00, 0x00, 0x0B, 0x01] ++ List.replicate 30 0 ++ [0x04] ++ List.replicate 59 0 ++
    [0x05] ++ List.replicate 35 0 ++ [0xA8, 0x00, 0x00, 0x00, 0x80, 0x00, 0x00, 0x00] ++
    List.replicate 4 0 ++ [0x7C, 0x00, 0x00, 0x00, 0x00, 0x02, 0x02, 0x00] ++ secondVersionBlob ++
    List.replicate 4 0).toArray

/-- A reader that does with `secondVersionBlob` what `SignatureReader.standard` does. -/
def secondVersionReader : SignatureReader where
  certificates _ := .error (.certificateVersion 1)
  content _ := .ok (some (.signers []))
  signer _ := .ok none

set_option maxRecDepth 4000 in
theorem secondVersionReader_standard :
    secondVersionReader.certificates secondVersionBlob =
      SignatureReader.standard.certificates secondVersionBlob := rfl

theorem secondVersionFile_blobs :
    (Image.read secondVersionFile .file {} secondVersionReader).signatureBlobs =
      [secondVersionBlob] := by decide +kernel

/-- Of this file no access to the signatures has an answer. -/
theorem second_version_ends_reading :
    secondVersionReader.certificates secondVersionBlob =
      SignatureReader.standard.certificates secondVersionBlob ∧
    ∃ i, Image.load secondVersionFile .file {} secondVersionReader = .ok i ∧ ∃ fault, ∀ past q,
      .signatures ∈ i.asks q → (i.ask q (i.after past)).1 = .error (.signatures fault) := by
  have documented : secondVersionReader.Documented := {
    certificates := by
      intro der fault failed
      cases failed
      exact ⟨1, by decide, by decide, rfl⟩
    content := nofun
    signer := nofun
    issuer := nofun
    subject := nofun }
  obtain ⟨i, loaded, reads, -⟩ :=
    signatures_end_only_at_unreadable_blobs secondVersionFile {} secondVersionReader documented
  refine ⟨secondVersionReader_standard, i, loaded, ?_⟩
  rw [Image.load_eq, Except.ok.injEq] at loaded
  subst loaded
  have front : element? secondVersionBlob = some secondVersionBlob := by decide +kernel
  have unreadable : secondVersionReader.Unreadable secondVersionBlob :=
    ⟨secondVersionBlob, front, .inl ⟨1, rfl⟩⟩
  obtain ⟨fault, -, fails⟩ := reads.ends fun goesOn =>
    goesOn secondVersionBlob (by simp [secondVersionFile_blobs])
      ⟨_, .here _, by simp [Image.visit], by rw [Image.read_reader]; exact unreadable⟩
  exact ⟨fault, fails⟩

end PeFacts
