import PeFacts.Signature.Walk

/-!
# What a walk meets

What the walk of a blob meets does not depend on what was found before: certificates that have a
part, problems, and faults. Its `trace` lists them in the order of the visit, and the walk takes one
`step` for each (`takes_walk`), up to the first fault. The trace is made of what each blob meets
by itself (`own`) and of the blobs that its signers carry; the blobs that a walk comes to are those
it `Reaches`.
-/

namespace PeFacts

open Asn1

/-- One thing that a walk meets. -/
inductive Event
  /-- A certificate that has a part. -/
  | certificate (c : Certificate) (kind : SignatureKind)
  | problem (p : Problem)
  deriving Repr, DecidableEq

/-- An event, or the fault that stands in its place. -/
abbrev Meeting := Except SignatureFault Event

/-- The walk after one more meeting. -/
def Walked.step (w : Walked) : Meeting → Except SignatureFault Walked
  | .ok (.certificate c kind) => w.add c kind
  | .ok (.problem p) => .ok (w.report p)
  | .error fault => .error fault

namespace Signer

/-- The values of all unauthenticated attributes, each with the type of its attribute. -/
def carried (s : Signer) : List (ObjectId × Octets) :=
  s.attributes.flatMap fun (type, values) => values.map (type, ·)

/-- Meets the certificate of a signer. -/
def meets (s : Signer) (certificates : List Certificate) (kind : SignatureKind) (missing : Problem) :
    Meeting :=
  (s.certificate? certificates).map fun
    | none => .problem missing
    | some c => .certificate c kind

end Signer

/-- The element at the front of a blob. -/
def element? (blob : Octets) : Option Octets := (derLength? blob).map fun size => blob.take size

/-- The part that the certificates of a carried blob have. -/
def carriedKind? (type : ObjectId) : Option SignatureKind :=
  if type = nestedAttribute then some .nested
  else if type = timestampAttribute then some .countersigner
  else none

namespace SignatureReader

variable (reader : SignatureReader)

/-- The certificates of an element, none when they cannot be read. -/
def certificatesOf (der : Octets) : List Certificate :=
  match reader.certificates der with
  | .ok (.ok certificates) => certificates
  | _ => []

/-- The signers of an element, none when it has none that can be read. -/
def signersOf (der : Octets) : List Signer :=
  match reader.content der with
  | .ok (some (.signers signers)) => signers
  | _ => []

/-- What is met in reading the certificates of an element. -/
def certificatesMet (der : Octets) : List Meeting :=
  match reader.certificates der with
  | .ok (.ok _) => []
  | .ok (.error fault) => [.ok (.problem (.certificatesUnreadable fault))]
  | .error fault => [.error fault]

/-- What is met in reading the content of an element: without signers, its bare certificates. -/
def contentMet (der : Octets) : List Meeting :=
  match reader.content der with
  | .error fault => [.error fault]
  | .ok none =>
    .ok (.problem .signerInfoUnreadable) ::
      (reader.certificatesOf der).map fun c => .ok (.certificate c .certificate)
  | .ok (some (.other type)) => [.ok (.problem (.notSignedData type.text))]
  | .ok (some (.signers _)) => []

/-- Meets a countersigner. -/
def countersigner (blob : Octets) (certificates : List Certificate) : Meeting :=
  match reader.signer blob with
  | .error fault => .error fault
  | .ok none => .ok (.problem .countersignatureUnreadable)
  | .ok (some s) => s.meets certificates .countersigner .countersignerCertificateMissing

/-- What is met in one value of an attribute; `inner` is what is met in a carried blob. -/
def attributeTrace (inner : Octets → SignatureKind → List Meeting) (certificates : List Certificate)
    (type : ObjectId) (value : Octets) : List Meeting :=
  match carriedKind? type with
  | some kind => inner value kind
  | none =>
    if type = countersignatureAttribute then [reader.countersigner value certificates] else []

/-- What is met in a signer and in what its attributes hold. -/
def signerTrace (inner : Octets → SignatureKind → List Meeting) (certificates : List Certificate)
    (kind : SignatureKind) (s : Signer) : List Meeting :=
  s.meets certificates kind .signerCertificateMissing ::
    s.carried.flatMap fun (type, value) => reader.attributeTrace inner certificates type value

/-- What the walk of a blob meets, in order. Whatever stands after a fault is not visited. -/
def trace (reader : SignatureReader) (maxDepth : Int) :
    (levels : Nat) → Octets → SignatureKind → List Meeting
  | 0, _, _ => [.ok (.problem (.signatureTooDeep maxDepth))]
  | levels + 1, blob, kind =>
    match element? blob with
    | none => [.ok (.problem .signatureNotDer)]
    | some der =>
      reader.certificatesMet der ++ reader.contentMet der ++
        (reader.signersOf der).flatMap
          (reader.signerTrace (reader.trace maxDepth levels) (reader.certificatesOf der) kind)

end SignatureReader

/-! ## The walk takes a step for each meeting -/

/-- `f` takes the steps of a trace, whatever was found before. -/
def Takes (f : Walked → Except SignatureFault Walked) (ms : List Meeting) : Prop :=
  ∀ w, f w = ms.foldlM Walked.step w

namespace Takes

variable {f g : Walked → Except SignatureFault Walked} {ms ns : List Meeting}

theorem nil : Takes Except.ok [] := fun _ => rfl

theorem single {m : Meeting} (h : ∀ w, f w = w.step m) : Takes f [m] := by
  intro w
  rw [h, List.foldlM_cons]
  cases w.step m <;> rfl

theorem append (hf : Takes f ms) (hg : Takes g ns) : Takes (fun w => f w >>= g) (ms ++ ns) := by
  intro w
  rw [List.foldlM_append, ← hf w]
  exact bind_congr hg

theorem foldlM {α : Type} {as : List α} {step : Walked → α → Except SignatureFault Walked}
    {trace : α → List Meeting} (h : ∀ a ∈ as, Takes (step · a) (trace a)) :
    Takes (as.foldlM step) (as.flatMap trace) := by
  induction as with
  | nil => exact nil
  | cons a as ih =>
    exact append (h a (by simp)) (ih fun b hb => h b (by simp [hb]))

end Takes

/-- The certificate of a signer is met and then added. -/
theorem takes_meets (s : Signer) (certificates : List Certificate) (kind : SignatureKind)
    (missing : Problem) :
    Takes (fun w => do
      match ← s.certificate? certificates with
      | none => pure (w.report missing)
      | some c => w.add c kind) [s.meets certificates kind missing] := by
  refine .single fun w => ?_
  rw [Signer.meets]
  cases s.certificate? certificates with
  | error fault => rfl
  | ok found? => cases found? <;> rfl

namespace SignatureReader

variable (reader : SignatureReader)

theorem takes_countersigner (blob : Octets) (certificates : List Certificate) :
    Takes (reader.visitCountersigner blob certificates) [reader.countersigner blob certificates] := by
  refine .single fun w => ?_
  rw [visitCountersigner, countersigner]
  cases reader.signer blob with
  | error fault => rfl
  | ok s? =>
    cases s? with
    | none => rfl
    | some s =>
      have met := takes_meets s certificates .countersigner .countersignerCertificateMissing w
      rw [List.foldlM_cons] at met
      refine met.trans ?_
      cases w.step (s.meets certificates .countersigner .countersignerCertificateMissing) <;> rfl

variable {inner : Octets → SignatureKind → Walked → Except SignatureFault Walked}
  {innerTrace : Octets → SignatureKind → List Meeting}

theorem takes_attribute (hi : ∀ blob kind, Takes (inner blob kind) (innerTrace blob kind))
    (certificates : List Certificate) (type : ObjectId) (value : Octets) :
    Takes (reader.visitAttribute inner certificates type · value)
      (reader.attributeTrace innerTrace certificates type value) := by
  unfold visitAttribute attributeTrace carriedKind?
  by_cases nested : type = nestedAttribute
  · simp only [if_pos nested]
    exact hi value .nested
  by_cases timestamp : type = timestampAttribute
  · simp only [if_neg nested, if_pos timestamp]
    exact hi value .countersigner
  by_cases counter : type = countersignatureAttribute
  · simp only [if_neg nested, if_neg timestamp, if_pos counter]
    exact reader.takes_countersigner value certificates
  · simp only [if_neg nested, if_neg timestamp, if_neg counter]
    exact .nil

theorem takes_signer (hi : ∀ blob kind, Takes (inner blob kind) (innerTrace blob kind))
    (certificates : List Certificate) (kind : SignatureKind) (s : Signer) :
    Takes (reader.visitSigner inner certificates kind · s)
      (reader.signerTrace innerTrace certificates kind s) := by
  have attributes : Takes (s.attributes.foldlM fun w (type, values) =>
      values.foldlM (reader.visitAttribute inner certificates type) w)
      (s.carried.flatMap fun (type, value) =>
        reader.attributeTrace innerTrace certificates type value) := by
    rw [Signer.carried, List.flatMap_assoc]
    refine .foldlM fun (type, values) _ => ?_
    rw [List.flatMap_map]
    exact .foldlM fun value _ => reader.takes_attribute hi certificates type value
  intro w
  have whole := (takes_meets s certificates kind .signerCertificateMissing).append attributes w
  rw [List.singleton_append] at whole
  rw [signerTrace, ← whole]
  unfold visitSigner
  cases s.certificate? certificates with
  | error fault => rfl
  | ok found? => cases found? <;> rfl

/-- What the walk does with an element once its certificates are read. -/
theorem takes_content (hi : ∀ blob kind, Takes (inner blob kind) (innerTrace blob kind))
    (der : Octets) (kind : SignatureKind) :
    Takes (fun w => do
      match ← reader.content der with
      | none =>
        (reader.certificatesOf der).foldlM (fun w c => w.add c .certificate)
          (w.report .signerInfoUnreadable)
      | some (.other type) => return w.report (.notSignedData type.text)
      | some (.signers signers) =>
        signers.foldlM (reader.visitSigner inner (reader.certificatesOf der) kind) w)
      (reader.contentMet der ++ (reader.signersOf der).flatMap
        (reader.signerTrace innerTrace (reader.certificatesOf der) kind)) := by
  unfold contentMet signersOf
  intro w
  cases reader.content der with
  | error fault => rfl
  | ok content? =>
    cases content? with
    | none =>
      simp only [List.flatMap_nil, List.append_nil, List.foldlM_cons, List.foldlM_map]
      rfl
    | some content =>
      cases content with
      | other type => rfl
      | signers signers =>
        exact Takes.foldlM (fun s _ => reader.takes_signer hi _ kind s) w

/-- The walk takes one step for each meeting. -/
theorem takes_walk (maxDepth : Int) (levels : Nat) (blob : Octets) (kind : SignatureKind) :
    Takes (reader.walkLevels maxDepth levels blob kind) (reader.trace maxDepth levels blob kind) := by
  induction levels generalizing blob kind with
  | zero => exact .single fun w => rfl
  | succ levels ih =>
    intro w
    unfold walkLevels trace element?
    cases derLength? blob with
    | none => rfl
    | some size =>
      dsimp only [Option.map_some]
      have content := reader.takes_content ih (blob.take size) kind
      rw [List.append_assoc, List.foldlM_append, bind_congr fun w => (content w).symm]
      unfold certificatesMet certificatesOf
      cases reader.certificates (blob.take size) with
      | error fault => rfl
      | ok read => cases read <;> rfl

end SignatureReader

end PeFacts
