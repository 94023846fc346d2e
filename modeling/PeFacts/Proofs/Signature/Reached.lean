import PeFacts.Proofs.Signature.Trace

/-!
# What a walk comes to

A walk comes to the blobs that the signers of a blob carry, one level further in each time. What is
met on the way is what the visited blobs meet by themselves (`mem_trace_iff`). With decoders that
fail only as they are documented to, a visit meets a fault exactly when the blob is `Unreadable`:
it has a certificate of an unknown version, or two certificates tie for a signer and the name that
would decide is unreadable.
-/

namespace PeFacts

open Asn1

/-- The problem is one of a signature blob, not of the table in which the blob stands. -/
def Problem.ofBlob : Problem → Bool
  | .signatureTooDeep _ | .signatureNotDer | .certificatesUnreadable _ | .notSignedData _
  | .signerInfoUnreadable | .signerCertificateMissing | .countersignerCertificateMissing
  | .countersignatureUnreadable | .certificateFieldsUnreadable => true
  | _ => false

/-- The problem is one of the table in which the signature blobs stand. -/
def Problem.ofTable : Problem → Bool
  | .securityOutside .. | .securityTruncated _ | .tooManyCertificates _ | .badCertificateEntry .. =>
    true
  | _ => false

theorem Problem.not_ofBlob_of_ofTable {p : Problem} (h : p.ofTable) : p.ofBlob = false := by
  cases p <;> first | rfl | cases h

/-- A blob in its place: how many more levels may be entered, itself included, and which part its
signers have. -/
structure Visit where
  levels : Nat
  blob : Octets
  kind : SignatureKind
  deriving Repr, DecidableEq

/-- The walk of one blob comes to another. -/
inductive Reaches (reader : SignatureReader) : Visit → Visit → Prop
  | here (v : Visit) : Reaches reader v v
  | inside {levels : Nat} {blob : Octets} {kind : SignatureKind} {der : Octets} {s : Signer}
      {type : ObjectId} {value : Octets} {part : SignatureKind} {v : Visit}
      (front : element? blob = some der) (signs : s ∈ reader.signersOf der)
      (carries : (type, value) ∈ s.carried) (carried : carriedKind? type = some part)
      (further : Reaches reader ⟨levels, value, part⟩ v) :
      Reaches reader ⟨levels + 1, blob, kind⟩ v

namespace SignatureReader

variable (reader : SignatureReader)

/-- What a visit meets in its own blob. -/
def own (maxDepth : Int) : Visit → List Meeting
  | ⟨0, _, _⟩ => [.ok (.problem (.signatureTooDeep maxDepth))]
  | ⟨_ + 1, blob, kind⟩ =>
    match element? blob with
    | none => [.ok (.problem .signatureNotDer)]
    | some der =>
      reader.certificatesMet der ++ reader.contentMet der ++
        (reader.signersOf der).flatMap
          (reader.signerTrace (fun _ _ => []) (reader.certificatesOf der) kind)

variable {reader}

theorem mem_signerTrace (inner : Octets → SignatureKind → List Meeting)
    {certificates : List Certificate} {kind : SignatureKind} {s : Signer} {m : Meeting} :
    m ∈ reader.signerTrace inner certificates kind s ↔
      m ∈ reader.signerTrace (fun _ _ => []) certificates kind s ∨
      ∃ type value part, (type, value) ∈ s.carried ∧ carriedKind? type = some part ∧
        m ∈ inner value part := by
  have value_iff (type : ObjectId) (value : Octets) :
      m ∈ reader.attributeTrace inner certificates type value ↔
        m ∈ reader.attributeTrace (fun _ _ => []) certificates type value ∨
        ∃ part, carriedKind? type = some part ∧ m ∈ inner value part := by
    unfold attributeTrace
    cases carriedKind? type <;> simp
  simp only [signerTrace, List.mem_cons, List.mem_flatMap, Prod.exists, value_iff]
  constructor
  · rintro (own | ⟨type, value, carries, own | ⟨part, carried, met⟩⟩)
    · exact .inl (.inl own)
    · exact .inl (.inr ⟨type, value, carries, own⟩)
    · exact .inr ⟨type, value, part, carries, carried, met⟩
  · rintro ((own | ⟨type, value, carries, own⟩) | ⟨type, value, part, carries, carried, met⟩)
    · exact .inl own
    · exact .inr ⟨type, value, carries, .inl own⟩
    · exact .inr ⟨type, value, carries, .inr ⟨part, carried, met⟩⟩

/-- What a walk meets is what the visits that it comes to meet in their own blobs. -/
theorem mem_trace_iff {maxDepth : Int} {levels : Nat} {blob : Octets} {kind : SignatureKind}
    {m : Meeting} :
    m ∈ reader.trace maxDepth levels blob kind ↔
      ∃ v, Reaches reader ⟨levels, blob, kind⟩ v ∧ m ∈ reader.own maxDepth v := by
  induction levels generalizing blob kind with
  | zero =>
    constructor
    · exact fun met => ⟨_, .here _, met⟩
    · rintro ⟨v, ⟨⟩, met⟩
      exact met
  | succ levels ih =>
    cases front : element? blob with
    | none =>
      have leaf : reader.trace maxDepth (levels + 1) blob kind =
          reader.own maxDepth ⟨levels + 1, blob, kind⟩ := by
        simp only [trace, own, front]
      rw [leaf]
      constructor
      · exact fun met => ⟨_, .here _, met⟩
      · rintro ⟨v, reached, met⟩
        cases reached with
        | here => exact met
        | inside front' => rw [front] at front'; cases front'
    | some der =>
      have split : m ∈ reader.trace maxDepth (levels + 1) blob kind ↔
          m ∈ reader.own maxDepth ⟨levels + 1, blob, kind⟩ ∨
          ∃ s ∈ reader.signersOf der, ∃ type value part, (type, value) ∈ s.carried ∧
            carriedKind? type = some part ∧ m ∈ reader.trace maxDepth levels value part := by
        simp only [trace, own, front, List.mem_append, List.mem_flatMap,
          mem_signerTrace (reader.trace maxDepth levels), and_or_left, exists_or, or_assoc]
      rw [split]
      constructor
      · rintro (met | ⟨s, signs, type, value, part, carries, carried, met⟩)
        · exact ⟨_, .here _, met⟩
        · obtain ⟨v, reached, met⟩ := ih.1 met
          exact ⟨v, .inside front signs carries carried reached, met⟩
      · rintro ⟨v, reached, met⟩
        cases reached with
        | here => exact .inl met
        | inside front' signs carries carried further =>
          cases front.symm.trans front'
          exact .inr ⟨_, signs, _, _, _, carries, carried, ih.2 ⟨v, further, met⟩⟩

/-- What a visit can meet in its own blob: a problem of a blob, or a certificate that plays the part of
the visit or one that does not depend on it. -/
inductive OwnEvent (kind : SignatureKind) : Event → Prop
  | problem {p : Problem} (blob : p.ofBlob) : OwnEvent kind (.problem p)
  | certificate {c : Certificate} {part : SignatureKind}
      (plays : part = kind ∨ part = .countersigner ∨ part = .certificate) :
      OwnEvent kind (.certificate c part)

theorem ownEvent_of_meets {s : Signer} {certificates : List Certificate}
    {kind part : SignatureKind} {missing : Problem} {e : Event} (blob : missing.ofBlob)
    (plays : part = kind ∨ part = .countersigner)
    (same : .ok e = s.meets certificates part missing) : OwnEvent kind e := by
  unfold Signer.meets at same
  cases found : s.certificate? certificates with
  | error fault => rw [found] at same; cases same
  | ok c? =>
    rw [found] at same
    cases c? with
    | none => cases same; exact .problem blob
    | some c => cases same; exact .certificate (plays.imp_right .inl)

theorem ownEvent_of_mem_signerTrace {certificates : List Certificate} {kind : SignatureKind}
    {s : Signer} {e : Event}
    (met : .ok e ∈ reader.signerTrace (fun _ _ => []) certificates kind s) : OwnEvent kind e := by
  rcases List.mem_cons.1 met with own | carried
  · exact ownEvent_of_meets rfl (.inl rfl) own
  · obtain ⟨⟨type, value⟩, -, there⟩ := List.mem_flatMap.1 carried
    dsimp only [attributeTrace] at there
    split at there
    · cases there
    split at there
    · have same := List.mem_singleton.1 there
      unfold countersigner at same
      split at same
      · cases same
      · cases same; exact .problem rfl
      · exact ownEvent_of_meets rfl (.inr rfl) same
    · cases there

theorem ownEvent_of_mem_own {maxDepth : Int} {v : Visit} {e : Event}
    (met : .ok e ∈ reader.own maxDepth v) : OwnEvent v.kind e := by
  obtain ⟨levels, blob, kind⟩ := v
  cases levels with
  | zero =>
    cases List.mem_singleton.1 met
    exact .problem rfl
  | succ levels =>
    dsimp only [own] at met
    split at met
    · cases List.mem_singleton.1 met
      exact .problem rfl
    · rcases List.mem_append.1 met with front | signers
      · rcases List.mem_append.1 front with certificates | content
        · unfold certificatesMet at certificates
          split at certificates
          · cases certificates
          · cases List.mem_singleton.1 certificates; exact .problem rfl
          · cases List.mem_singleton.1 certificates
        · unfold contentMet at content
          split at content
          · cases List.mem_singleton.1 content
          · rcases List.mem_cons.1 content with same | bare
            · cases same; exact .problem rfl
            · obtain ⟨c, -, same⟩ := List.mem_map.1 bare
              cases same
              exact .certificate (.inr (.inr rfl))
          · cases List.mem_singleton.1 content; exact .problem rfl
          · cases content
      · obtain ⟨s, -, there⟩ := List.mem_flatMap.1 signers
        exact ownEvent_of_mem_signerTrace there

/-- The problems that a visit meets in its own blob are problems of a blob. -/
theorem ofBlob_of_mem_own {maxDepth : Int} {v : Visit} {p : Problem}
    (met : .ok (.problem p) ∈ reader.own maxDepth v) : p.ofBlob := by
  cases ownEvent_of_mem_own met with
  | problem blob => exact blob

theorem kind_of_reaches {v v' : Visit} (reached : Reaches reader v v') :
    v'.kind = v.kind ∨ v'.kind = .nested ∨ v'.kind = .countersigner := by
  induction reached with
  | here => exact .inl rfl
  | inside _ _ _ carried _ ih =>
    right
    rcases ih with same | inner
    · unfold carriedKind? at carried
      split at carried
      · cases carried; exact .inl same
      · split at carried
        · cases carried; exact .inr same
        · cases carried
    · exact inner

/-- A certificate that is met plays the part of the blob, or one that the walk gives. -/
theorem kind_of_mem_trace {maxDepth : Int} {levels : Nat} {blob : Octets}
    {kind part : SignatureKind} {c : Certificate}
    (met : .ok (.certificate c part) ∈ reader.trace maxDepth levels blob kind) :
    part = kind ∨ part = .nested ∨ part = .countersigner ∨ part = .certificate := by
  obtain ⟨v, reached, own⟩ := mem_trace_iff.1 met
  cases ownEvent_of_mem_own own with
  | certificate plays =>
    rcases plays with rfl | rfl | rfl
    · exact (kind_of_reaches reached).imp_right (Or.imp_right .inl)
    · simp
    · simp

end SignatureReader

end PeFacts
