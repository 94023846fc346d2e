import Mathlib.Data.List.Basic
import PeFacts.Proofs.Signature.Front
import PeFacts.Proofs.Signature.Run
import PeFacts.Signature.Decoding

/-!
# The order of the records

The stations of a walk are told by recursion over what the decoders return, in pre-order: each signer
comes before what its attributes carry, and a blob that is too deep is a station of its own
(`SignatureReader.preorder`). A walk that meets no fault passes just these stations
(`filterMap_trace`), whatever was found before, so the records of one walk after the other are the
first 64 of all stations in a row. Main result: `walks_flatten_signatures`.
-/

namespace PeFacts

open Asn1

/-! ## Stations -/

/-- Where a walk stops on its way: at a certificate that has a part, or before a blob that is too
deep. -/
inductive Station
  | certificate (c : Certificate) (kind : SignatureKind)
  | tooDeep
  deriving DecidableEq

/-- The record of a station, if there is a certificate with fields that can be read. -/
def Station.record? : Station → Option SignatureRecord
  | .certificate c kind => (SignatureRecord.ofCertificate c kind).toOption
  | .tooDeep => none

namespace Signer

/-- The certificate matched to a signer: of those with its serial number the first that has its issuer,
or else the first. -/
def matched? (s : Signer) (certificates : List Certificate) : Option Certificate :=
  let candidates := certificates.filter (·.serial == s.serial)
  (candidates.find? (·.issuer.der == s.issuer)).or candidates.head?

/-- The certificate matched to a signer is a station, if there is one. -/
def stations (s : Signer) (certificates : List Certificate) (kind : SignatureKind) : List Station :=
  (s.matched? certificates).toList.map (.certificate · kind)

end Signer

namespace SignatureReader

/-- The stations of one value of an attribute; `inner` gives those of a carried blob. -/
def attributeStations (reader : SignatureReader) (inner : Octets → SignatureKind → List Station)
    (certificates : List Certificate) (type : ObjectId) (value : Octets) : List Station :=
  if type = nestedAttribute then inner value .nested
  else if type = timestampAttribute then inner value .countersigner
  else if type = countersignatureAttribute then
    match reader.signer value with
    | .ok (some s) => s.stations certificates .countersigner
    | _ => []
  else []

/-- The stations of a signer: its certificate, and then what its attributes carry. -/
def signerStations (reader : SignatureReader) (inner : Octets → SignatureKind → List Station)
    (certificates : List Certificate) (kind : SignatureKind) (s : Signer) : List Station :=
  s.stations certificates kind ++
    s.carried.flatMap fun (type, value) => reader.attributeStations inner certificates type value

/-- The stations of the walk of a blob, in pre-order. A blob without signers that can be decoded has all
its certificates. -/
def preorder (reader : SignatureReader) (maxDepth : Int) (blob : Octets) (kind : SignatureKind)
    (depth : Int) : List Station :=
  if maxDepth < depth then [.tooDeep]
  else
    match element? blob with
    | none => []
    | some der =>
      match reader.content der with
      | .ok none => (reader.certificatesOf der).map (.certificate · .certificate)
      | .ok (some (.signers signers)) =>
        signers.flatMap <| reader.signerStations
          (fun value part => reader.preorder maxDepth value part (depth + 1))
          (reader.certificatesOf der) kind
      | _ => []
termination_by (maxDepth + 1 - depth).toNat

end SignatureReader

/-! ## The stations that a walk passes -/

/-- The station at which something is met. -/
def station? : Meeting → Option Station
  | .ok (.certificate c kind) => some (.certificate c kind)
  | .ok (.problem (.signatureTooDeep _)) => some .tooDeep
  | _ => none

theorem firstIssuedBy_eq_find? {issuer : Octets} {certificates : List Certificate}
    {found? : Option Certificate} (found : firstIssuedBy issuer certificates = .ok found?) :
    certificates.find? (·.issuer.der == issuer) = found? := by
  induction certificates with
  | nil =>
    cases found
    rfl
  | cons c rest ih =>
    rw [firstIssuedBy] at found
    cases text : c.issuer.text with
    | error fault =>
      rw [text] at found
      cases found
    | ok name =>
      rw [text] at found
      by_cases same : c.issuer.der = issuer
      · simp only [if_pos same] at found
        cases found
        rw [List.find?_cons_of_pos (by simpa using same)]
      · simp only [if_neg same] at found
        rw [List.find?_cons_of_neg (by simpa using same)]
        exact ih found

namespace Signer

variable {s : Signer} {certificates : List Certificate}

/-- A search without a fault comes to the certificate matched. -/
theorem certificate?_eq_matched? {found? : Option Certificate}
    (found : s.certificate? certificates = .ok found?) : s.matched? certificates = found? := by
  unfold matched?
  dsimp only
  cases several : certificates.filter (·.serial == s.serial) with
  | nil =>
    rw [certificate?, several] at found
    cases found
    rfl
  | cons c rest =>
    cases rest with
    | nil =>
      rw [certificate?, several] at found
      cases found
      rw [List.find?_singleton]
      split <;> rfl
    | cons d rest =>
      rw [certificate?_of_several several] at found
      cases first : firstIssuedBy s.issuer (c :: d :: rest) with
      | error fault =>
        rw [first] at found
        cases found
      | ok issued? =>
        rw [first] at found
        cases found
        rw [firstIssuedBy_eq_find? first]
        cases issued? <;> rfl

theorem filterMap_meets {kind : SignatureKind} {missing : Problem}
    (other : station? (.ok (.problem missing)) = none)
    (sound : ∀ fault, s.meets certificates kind missing ≠ .error fault) :
    [s.meets certificates kind missing].filterMap station? = s.stations certificates kind := by
  rw [stations]
  unfold meets at sound ⊢
  cases found : s.certificate? certificates with
  | error fault =>
    rw [found] at sound
    exact absurd rfl (sound fault)
  | ok found? =>
    rw [certificate?_eq_matched? found]
    cases found? with
    | none => exact List.filterMap_cons_none other
    | some c => rfl

end Signer

namespace SignatureReader

variable {reader : SignatureReader}

theorem filterMap_countersigner {value : Octets} {certificates : List Certificate}
    (sound : ∀ fault, reader.countersigner value certificates ≠ .error fault) :
    [reader.countersigner value certificates].filterMap station? =
      match reader.signer value with
      | .ok (some t) => t.stations certificates .countersigner
      | _ => [] := by
  unfold countersigner at sound ⊢
  cases signer : reader.signer value with
  | error fault => rfl
  | ok t? =>
    cases t? with
    | none => rfl
    | some t =>
      rw [signer] at sound
      exact Signer.filterMap_meets rfl sound

variable {innerTrace : Octets → SignatureKind → List Meeting}
  {inner : Octets → SignatureKind → List Station}
  (hi : ∀ blob kind, (∀ fault, .error fault ∉ innerTrace blob kind) →
    (innerTrace blob kind).filterMap station? = inner blob kind)

include hi

theorem filterMap_attributeTrace {certificates : List Certificate} {type : ObjectId} {value : Octets}
    (sound : ∀ fault, .error fault ∉ reader.attributeTrace innerTrace certificates type value) :
    (reader.attributeTrace innerTrace certificates type value).filterMap station? =
      reader.attributeStations inner certificates type value := by
  unfold attributeTrace carriedKind? at sound ⊢
  unfold attributeStations
  by_cases nested : type = nestedAttribute
  · simp only [if_pos nested] at sound ⊢
    exact hi value .nested sound
  by_cases timestamp : type = timestampAttribute
  · simp only [if_neg nested, if_pos timestamp] at sound ⊢
    exact hi value .countersigner sound
  by_cases counter : type = countersignatureAttribute
  · simp only [if_neg nested, if_neg timestamp, if_pos counter] at sound ⊢
    exact filterMap_countersigner fun fault same => sound fault (List.mem_singleton.2 same.symm)
  · simp only [if_neg nested, if_neg timestamp, if_neg counter]
    rfl

theorem filterMap_signerTrace {certificates : List Certificate} {kind : SignatureKind} {s : Signer}
    (sound : ∀ fault, .error fault ∉ reader.signerTrace innerTrace certificates kind s) :
    (reader.signerTrace innerTrace certificates kind s).filterMap station? =
      reader.signerStations inner certificates kind s := by
  have own (fault : SignatureFault) :
      s.meets certificates kind .signerCertificateMissing ≠ .error fault :=
    fun same => sound fault (same ▸ List.mem_cons_self ..)
  rw [signerTrace, ← List.singleton_append, List.filterMap_append, List.filterMap_flatMap,
    Signer.filterMap_meets rfl own, signerStations]
  refine congrArg _ (List.flatMap_congr fun carried carries => ?_)
  obtain ⟨type, value⟩ := carried
  exact filterMap_attributeTrace hi fun fault met =>
    sound fault (List.mem_cons_of_mem _ (List.mem_flatMap.2 ⟨_, carries, met⟩))

omit hi

theorem filterMap_certificatesMet (der : Octets) :
    (reader.certificatesMet der).filterMap station? = [] := by
  unfold certificatesMet
  split <;> rfl

/-- A walk that meets no fault passes the stations in pre-order. -/
theorem filterMap_trace {maxDepth depth : Int} {levels : Nat}
    (left : levels = (maxDepth + 1 - depth).toNat) {blob : Octets} {kind : SignatureKind}
    (sound : ∀ fault, .error fault ∉ reader.trace maxDepth levels blob kind) :
    (reader.trace maxDepth levels blob kind).filterMap station? =
      reader.preorder maxDepth blob kind depth := by
  induction levels generalizing blob kind depth with
  | zero =>
    rw [preorder, if_pos (by omega)]
    rfl
  | succ levels ih =>
    rw [preorder, if_neg (by omega)]
    unfold trace at sound ⊢
    cases front : element? blob with
    | none => rfl
    | some der =>
      simp only [front, List.mem_append, List.mem_flatMap, not_or, not_exists, not_and] at sound
      simp only [List.filterMap_append, filterMap_certificatesMet, List.nil_append]
      unfold contentMet signersOf at sound ⊢
      cases content : reader.content der with
      | error fault => rfl
      | ok content? =>
        cases content? with
        | none =>
          rw [List.filterMap_cons_none rfl, List.filterMap_map, ← List.filterMap_eq_map]
          exact List.append_nil _
        | some held =>
          cases held with
          | other type => rfl
          | signers signers =>
            simp only [content] at sound
            rw [List.filterMap_nil, List.nil_append, List.filterMap_flatMap]
            refine List.flatMap_congr fun s signs => ?_
            exact filterMap_signerTrace (fun _ _ => ih (by omega)) fun fault => (sound fault).2 s signs

end SignatureReader

theorem element?_take_append {blob : Octets} {size : Nat} (front : derLength? blob = some size)
    (rest : Octets) : (blob.take size ++ rest).take size = blob.take size :=
  List.take_left' (List.length_take_of_le (bounds_of_derLength? front).2)

/-! ## One walk after the other -/

/-- One call of a walker. -/
structure Call where
  blob : Octets
  kind : SignatureKind
  depth : Int

/-- The visit that a call begins with. -/
def Call.visit (c : Call) (maxDepth : Int) : Visit := ⟨(maxDepth + 1 - c.depth).toNat, c.blob, c.kind⟩

namespace SignatureReader

variable (reader : SignatureReader) (maxDepth : Int)

/-- The calls one after the other, on one walker that starts with nothing. -/
def walkAll (calls : List Call) : Except SignatureFault Walked :=
  calls.foldlM (fun w c => reader.walk maxDepth c.blob c.kind c.depth w) {}

/-- The stations of the calls in a row. -/
def stations (calls : List Call) : List Station :=
  calls.flatMap fun c => reader.preorder maxDepth c.blob c.kind c.depth

/-- What the calls meet in a row. -/
def metBy (calls : List Call) : List Meeting :=
  calls.flatMap fun c => reader.trace maxDepth (c.visit maxDepth).levels c.blob c.kind

/-- The walk of a call enters an unreadable blob. -/
def Stops (c : Call) : Prop :=
  ∃ v, Reaches reader (c.visit maxDepth) v ∧ 0 < v.levels ∧ reader.Unreadable v.blob

end SignatureReader

/-- What a walker holds after the calls: the first 64 readable records of all stations in a row, one
problem for each blob that is too deep, and behind the records of the calls before, which stay. -/
structure Flattens (reader : SignatureReader) (maxDepth : Int) (calls : List Call) (w : Walked) :
    Prop where
  records : w.found.toList =
    ((reader.stations maxDepth calls).filterMap Station.record?).take maxSignatureRecords
  tooDeep : w.problems.toList.countP (·.code == "E_PE_SIG_TOO_DEEP") =
    (reader.stations maxDepth calls).count .tooDeep
  appended : ∀ earlier later, calls = earlier ++ later →
    ∃ w', reader.walkAll maxDepth earlier = .ok w' ∧ w'.found.toList <+: w.found.toList

/-- Walks go through signatures in pre-order. -/
structure WalksInPreorder (reader : SignatureReader) : Prop where
  /-- Only an unreadable blob keeps a walker from going on. -/
  goesOn : ∀ maxDepth calls, (∃ w, reader.walkAll maxDepth calls = .ok w) ↔
    ∀ c ∈ calls, ¬ reader.Stops maxDepth c
  uncaught : ∀ maxDepth calls fault, reader.walkAll maxDepth calls = .error fault → fault.Uncaught
  flattens : ∀ maxDepth calls w, reader.walkAll maxDepth calls = .ok w →
    Flattens reader maxDepth calls w
  /-- A blob that is too deep gives one problem and nothing else. -/
  deep : ∀ maxDepth blob kind depth w, maxDepth < depth →
    reader.walk maxDepth blob kind depth w = .ok (w.report (.signatureTooDeep maxDepth))
  /-- What stands behind the first element of a blob changes nothing. -/
  trailing : ∀ maxDepth blob kind depth w size rest, derLength? blob = some size →
    reader.walk maxDepth (blob.take size ++ rest) kind depth w =
      reader.walk maxDepth blob kind depth w

variable {reader : SignatureReader} {maxDepth : Int} {calls : List Call}

theorem filterMap_record? (ms : List Meeting) :
    (ms.filterMap station?).filterMap Station.record? = ms.filterMap recordMet? := by
  rw [List.filterMap_filterMap]
  refine congrArg (List.filterMap · ms) (funext fun m => ?_)
  match m with
  | .error fault => rfl
  | .ok (.certificate c kind) => rfl
  | .ok (.problem p) => cases p <;> rfl

/-- What is met is a problem of this sort. -/
def isProblem (q : Problem → Bool) : Meeting → Bool
  | .ok (.problem p) => q p
  | _ => false

section Count

variable {q : Problem → Bool} (other : q .certificateFieldsUnreadable = false)

include other

theorem countP_of_step {w w' : Walked} {m : Meeting} (stepped : w.step m = .ok w') :
    w'.problems.toList.countP q = w.problems.toList.countP q + [m].countP (isProblem q) := by
  match m with
  | .error fault => cases stepped
  | .ok (.problem p) =>
    cases stepped
    rw [Reading.report, Array.toList_push, List.countP_append, List.countP_singleton,
      List.countP_singleton]
    rfl
  | .ok (.certificate c kind) =>
    rw [Walked.step, Walked.add] at stepped
    split at stepped
    · cases stepped
      rfl
    · split at stepped
      · cases stepped
        rfl
      · cases stepped
        rw [Reading.report, Array.toList_push, List.countP_append, List.countP_singleton, other]
        rfl
      · cases stepped

/-- A run notes the problems that it meets, one for each, apart from certificates that cannot be read:
these are looked at only as long as there is room for a record. -/
theorem countP_of_run {ms : List Meeting} {w w' : Walked} (run : ms.foldlM Walked.step w = .ok w') :
    w'.problems.toList.countP q = w.problems.toList.countP q + ms.countP (isProblem q) := by
  induction ms generalizing w with
  | nil =>
    cases run
    rfl
  | cons m ms ih =>
    rw [List.foldlM_cons] at run
    cases stepped : w.step m with
    | error fault =>
      rw [stepped] at run
      cases run
    | ok mid =>
      rw [stepped] at run
      rw [ih run, countP_of_step other stepped, Nat.add_assoc, ← List.countP_append,
        List.singleton_append]

end Count

/-- The problem of a blob that is too deep is met at its station and nowhere else. -/
theorem countP_tooDeep (ms : List Meeting) :
    ms.countP (isProblem (·.code == "E_PE_SIG_TOO_DEEP")) = (ms.filterMap station?).count .tooDeep := by
  rw [List.count_filterMap]
  refine congrArg (List.countP · ms) (funext fun m => ?_)
  match m with
  | .error fault => rfl
  | .ok (.certificate c kind) => rfl
  | .ok (.problem p) => cases p <;> rfl

namespace SignatureReader

/-- The calls take one step for each meeting. -/
theorem walkAll_eq (reader : SignatureReader) (maxDepth : Int) (calls : List Call) :
    reader.walkAll maxDepth calls = (reader.metBy maxDepth calls).foldlM Walked.step {} :=
  Takes.foldlM (fun c _ => reader.takes_walk maxDepth (c.visit maxDepth).levels c.blob c.kind) {}

variable (documented : reader.Documented)

include documented

theorem stops_iff {c : Call} : reader.Stops maxDepth c ↔
    ∃ fault, .error fault ∈ reader.trace maxDepth (c.visit maxDepth).levels c.blob c.kind :=
  (exists_fault_mem_trace_iff documented).symm

theorem legible_of_mem_metBy {c : Certificate} {kind : SignatureKind}
    (met : .ok (.certificate c kind) ∈ reader.metBy maxDepth calls) : c.Legible := by
  obtain ⟨call, -, met⟩ := List.mem_flatMap.1 met
  exact legible_of_mem_trace documented met

/-- A walker that comes to no unreadable blob goes on. -/
theorem walkAll_ran (goesOn : ∀ c ∈ calls, ¬ reader.Stops maxDepth c) :
    ∃ w, reader.walkAll maxDepth calls = .ok w ∧ Ran {} (reader.metBy maxDepth calls) w := by
  rw [walkAll_eq]
  refine ran_of_legible _ {} (Nat.zero_le _) (fun fault met => ?_)
    fun c kind => legible_of_mem_metBy documented
  obtain ⟨c, there, met⟩ := List.mem_flatMap.1 met
  exact goesOn c there ((stops_iff documented).2 ⟨fault, met⟩)

/-- An unreadable blob ends the walk with its fault. -/
theorem walkAll_fails {c : Call} (there : c ∈ calls) (stops : reader.Stops maxDepth c) :
    ∃ fault : SignatureFault, fault.Uncaught ∧ reader.walkAll maxDepth calls = .error fault := by
  obtain ⟨fault, met⟩ := (stops_iff documented).1 stops
  obtain ⟨first, met, failed⟩ := fails_of_fault (reader.metBy maxDepth calls) {} (Nat.zero_le _)
    (List.mem_flatMap.2 ⟨c, there, met⟩) fun c kind => legible_of_mem_metBy documented
  obtain ⟨c', -, met⟩ := List.mem_flatMap.1 met
  exact ⟨first, uncaught_of_mem_trace documented met, (walkAll_eq ..).trans failed⟩

omit documented

/-- Walks that go on pass their stations in a row. -/
theorem filterMap_metBy (sound : ∀ fault, .error fault ∉ reader.metBy maxDepth calls) :
    (reader.metBy maxDepth calls).filterMap station? = reader.stations maxDepth calls := by
  rw [metBy, List.filterMap_flatMap, stations]
  refine List.flatMap_congr fun c there => filterMap_trace rfl fun fault met => ?_
  exact sound fault (List.mem_flatMap.2 ⟨c, there, met⟩)

/-- What stands behind the first element of a blob changes nothing. -/
theorem walk_take_append (reader : SignatureReader) (maxDepth : Int) {blob : Octets} {size : Nat}
    (front : derLength? blob = some size) (rest : Octets) (kind : SignatureKind) (depth : Int)
    (w : Walked) :
    reader.walk maxDepth (blob.take size ++ rest) kind depth w =
      reader.walk maxDepth blob kind depth w := by
  unfold walk
  cases (maxDepth + 1 - depth).toNat with
  | zero => rfl
  | succ levels =>
    unfold walkLevels
    rw [derLength?_take_append front rest, front]
    dsimp only
    rw [element?_take_append front rest]

end SignatureReader

theorem flattens_of_ok (documented : reader.Documented) {w : Walked}
    (done : reader.walkAll maxDepth calls = .ok w) : Flattens reader maxDepth calls w := by
  have goesOn (c : Call) (there : c ∈ calls) : ¬ reader.Stops maxDepth c := by
    intro stops
    obtain ⟨fault, -, failed⟩ := SignatureReader.walkAll_fails documented there stops
    cases done.symm.trans failed
  have sound (fault : SignatureFault) : .error fault ∉ reader.metBy maxDepth calls := by
    intro met
    obtain ⟨c, there, met⟩ := List.mem_flatMap.1 met
    exact goesOn c there ((SignatureReader.stops_iff documented).2 ⟨fault, met⟩)
  have stations := SignatureReader.filterMap_metBy sound
  have records {calls : List Call} {w : Walked} (goesOn : ∀ c ∈ calls, ¬ reader.Stops maxDepth c)
      (done : reader.walkAll maxDepth calls = .ok w) :
      w.found.toList = ((reader.metBy maxDepth calls).filterMap recordMet?).take maxSignatureRecords := by
    obtain ⟨w', done', ran⟩ := SignatureReader.walkAll_ran documented goesOn
    cases done.symm.trans done'
    simpa using ran.found
  exact {
    records := by
      rw [records goesOn done, ← filterMap_record?, stations]
    tooDeep := by
      have run := (SignatureReader.walkAll_eq reader maxDepth calls).symm.trans done
      rw [countP_of_run rfl run, countP_tooDeep, stations]
      exact Nat.zero_add _
    appended := by
      rintro earlier later rfl
      have before : ∀ c ∈ earlier, ¬ reader.Stops maxDepth c :=
        fun c there => goesOn c (List.mem_append_left _ there)
      obtain ⟨w', done', -⟩ := SignatureReader.walkAll_ran documented before
      refine ⟨w', done', ?_⟩
      rw [records before done', records goesOn done, SignatureReader.metBy, SignatureReader.metBy,
        List.flatMap_append, List.filterMap_append, List.take_append]
      exact List.prefix_append _ _ }

/-- Walks go through signatures in pre-order and keep the first 64 readable records, unless an
unreadable blob ends them. -/
theorem walks_flatten_signatures (reader : SignatureReader) (documented : reader.Documented) :
    WalksInPreorder reader where
  goesOn maxDepth calls := by
    constructor
    · rintro ⟨w, done⟩ c there stops
      obtain ⟨fault, -, failed⟩ := SignatureReader.walkAll_fails documented there stops
      cases done.symm.trans failed
    · intro goesOn
      obtain ⟨w, done, -⟩ := SignatureReader.walkAll_ran documented goesOn
      exact ⟨w, done⟩
  uncaught maxDepth calls fault failed := by
    by_cases goesOn : ∀ c ∈ calls, ¬ reader.Stops maxDepth c
    · obtain ⟨w, done, -⟩ := SignatureReader.walkAll_ran documented goesOn
      cases done.symm.trans failed
    · obtain ⟨c, ends⟩ := Classical.not_forall.1 goesOn
      obtain ⟨there, stops⟩ := Classical.not_imp.1 ends
      obtain ⟨fault', uncaught, failed'⟩ :=
        SignatureReader.walkAll_fails documented there (Classical.not_not.1 stops)
      cases failed.symm.trans failed'
      exact uncaught
  flattens maxDepth calls w := flattens_of_ok documented
  deep maxDepth blob kind depth w deep := by
    rw [SignatureReader.walk, show (maxDepth + 1 - depth).toNat = 0 by omega]
    rfl
  trailing maxDepth blob kind depth w size rest front :=
    reader.walk_take_append maxDepth front rest kind depth w

/-! ## Blobs to walk -/

namespace SignatureReader

/-- A reader that decodes no other blobs than these. -/
def limitedTo (blobs : List Octets) : SignatureReader where
  certificates der := if der ∈ blobs then standard.certificates der else .ok (.error .malformed)
  content der := if der ∈ blobs then standard.content der else .ok none
  signer der := if der ∈ blobs then standard.signer der else .ok none

/-- The name has a text or is unreadable. -/
def hasPlainText (name : DistinguishedName) : Bool :=
  match name.text with
  | .ok _ => true
  | .error fault => fault = .unreadable

/-- Decoding the blob ends as it is documented to. -/
def isPlain (der : Octets) : Bool :=
  (standard.certificates der).toBool && (standard.content der).toBool &&
    (standard.signer der).toBool &&
    (standard.certificatesOf der).all fun c => hasPlainText c.issuer && hasPlainText c.subject

theorem eq_unreadable_of_hasPlainText {name : DistinguishedName} (plain : hasPlainText name)
    {fault : NameFault} (failed : name.text = .error fault) : fault = .unreadable := by
  rw [hasPlainText, failed] at plain
  exact of_decide_eq_true plain

/-- A reader that is defined by cases fails in neither of them. -/
theorem ite_ne_error {ε α : Type} {p : Prop} [Decidable p] {x y : Except ε α} (yes : p → x.toBool)
    (no : y.toBool) {fault : ε} : (if p then x else y) ≠ .error fault := by
  intro failed
  split at failed
  next holds =>
    rw [failed] at yes
    cases yes holds
  · rw [failed] at no
    cases no

theorem documented_limitedTo {blobs : List Octets} (plain : blobs.all isPlain) :
    (limitedTo blobs).Documented := by
  have plain (der : Octets) (there : der ∈ blobs) : isPlain der := List.all_eq_true.1 plain der there
  simp only [isPlain, Bool.and_eq_true, List.all_eq_true] at plain
  have listed {der : Octets} {c : Certificate} (there : c ∈ (limitedTo blobs).certificatesOf der) :
      hasPlainText c.issuer ∧ hasPlainText c.subject := by
    unfold certificatesOf limitedTo at there
    by_cases known : der ∈ blobs
    · simp only [if_pos known] at there
      exact (plain der known).2 c there
    · simp only [if_neg known] at there
      cases there
  exact {
    certificates := fun {der fault} failed =>
      absurd failed (ite_ne_error (fun known => (plain der known).1.1.1) rfl)
    content := fun {der fault} failed =>
      ite_ne_error (fun known => (plain der known).1.1.2) rfl failed
    signer := fun {der fault} failed =>
      ite_ne_error (fun known => (plain der known).1.2) rfl failed
    issuer := fun there => eq_unreadable_of_hasPlainText (listed there).1
    subject := fun there => eq_unreadable_of_hasPlainText (listed there).2 }

end SignatureReader

/-- An algorithm without parameters. -/
def bareAlgorithm : Octets := encode .sequence true (encode .objectId false [0x2B, 0x65, 0x70])

/-- A certificate of the third version without a subject. -/
def bareCertificate (serial : UInt8) (issuer : Octets) : Octets :=
  let time := encode .utcTime false [48, 48, 48, 49, 48, 49, 48, 48, 48, 48, 48, 48, 90]
  encode .sequence true <|
    encode .sequence true (encode (.context 0) true (encode .integer false [2]) ++
      encode .integer false [serial] ++ bareAlgorithm ++ encode .sequence true issuer ++
      encode .sequence true (time ++ time) ++ encode .sequence true [] ++
      encode .sequence true (bareAlgorithm ++ encode .bitString false [0])) ++
    bareAlgorithm ++ encode .bitString false [0]

/-- A signer whose certificate has an empty issuer, with nested signatures. -/
def bareSigner (serial : UInt8) (nested : List Octets) : Octets :=
  encode .sequence true (encode .integer false [1] ++
    encode .sequence true (encode .sequence true [] ++ encode .integer false [serial]) ++
    bareAlgorithm ++ bareAlgorithm ++ encode .octetString false [] ++
    encode (.context 1) true (encode .sequence true
      (encode .objectId false [43, 6, 1, 4, 1, 130, 55, 2, 4, 1] ++ encode .set true nested.flatten)))

/-- A message with certificates and one signer. -/
def bareMessage (certificates : List Octets) (signer : Octets) : Octets :=
  let type (last : UInt8) : Octets := encode .objectId false [42, 134, 72, 134, 247, 13, 1, 7, last]
  encode .sequence true (type 2 ++ encode (.context 0) true (encode .sequence true
    (encode .integer false [1] ++ encode .set true [] ++ encode .sequence true (type 1) ++
      encode (.context 0) true certificates.flatten ++ encode .set true signer)))

/-- A signature that carries an empty element. -/
def innerBlob : Octets := bareMessage [bareCertificate 2 []] (bareSigner 2 [encode .sequence true []])

/-- A signature that carries `innerBlob`. -/
def outerBlob : Octets := bareMessage [bareCertificate 1 []] (bareSigner 1 [innerBlob])

/-- A signature with two certificates of the signer's number. The first has an unreadable issuer, the
second has the issuer of the signer. -/
def tiedBlob : Octets :=
  bareMessage [bareCertificate 1 (encode .set true []), bareCertificate 1 []] (bareSigner 1 [])

/-- The reader that decodes these three blobs. -/
def threeBlobs : SignatureReader := .limitedTo [innerBlob, outerBlob, tiedBlob]

/-- Two walks of `outerBlob`, the second of which begins too deep, and one of `tiedBlob`. -/
theorem nested_signatures_are_flattened :
    WalksInPreorder threeBlobs ∧
      (threeBlobs.walkAll 1 [⟨outerBlob ++ [0, 0], .signer, 0⟩, ⟨outerBlob, .signer, 2⟩]).toOption.map
          (fun w => (w.found.toList.map (·.kind), w.problems.toList)) =
        some ([.signer, .nested], [.signatureTooDeep 1, .signatureTooDeep 1]) ∧
      ∃ fault : SignatureFault, fault.Uncaught ∧
        threeBlobs.walkAll 1 [⟨tiedBlob, .signer, 0⟩] = .error fault := by
  have walks : WalksInPreorder threeBlobs :=
    walks_flatten_signatures threeBlobs (SignatureReader.documented_limitedTo (by decide +kernel))
  refine ⟨walks, by decide +kernel, ?_⟩
  have stopped : (threeBlobs.walkAll 1 [⟨tiedBlob, .signer, 0⟩]).toBool = false := by decide +kernel
  cases walked : threeBlobs.walkAll 1 [⟨tiedBlob, .signer, 0⟩] with
  | error fault => exact ⟨fault, walks.uncaught _ _ _ walked, rfl⟩
  | ok w =>
    rw [walked] at stopped
    cases stopped

end PeFacts
