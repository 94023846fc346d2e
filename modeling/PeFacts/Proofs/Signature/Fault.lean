import PeFacts.Proofs.Signature.Reached

/-!
# What ends a walk

With decoders that fail only as they are documented to, two things end the reading of all
signatures: a blob with a certificate of an unknown version, and a tie. Certificates tie for a signer
when several have its serial number; the one with its issuer is looked for, and a name that is
unreadable is met on the way. Everything else that goes wrong is a problem of the blob alone.
-/

namespace PeFacts

open Asn1

/-- The decoders fail as they are documented to: the certificates of a blob on a version that is
neither the first nor the third, and a name only when it is unreadable. Whatever else is wrong with a
blob has an answer. -/
structure SignatureReader.Documented (reader : SignatureReader) : Prop where
  certificates : ∀ {der fault}, reader.certificates der = .error fault →
    ∃ version, version ≠ 0 ∧ version ≠ 2 ∧ fault = .certificateVersion version
  content : ∀ {der fault}, reader.content der ≠ .error fault
  signer : ∀ {der fault}, reader.signer der ≠ .error fault
  issuer : ∀ {der c fault}, c ∈ reader.certificatesOf der → c.issuer.text = .error fault →
    fault = .unreadable
  subject : ∀ {der c fault}, c ∈ reader.certificatesOf der → c.subject.text = .error fault →
    fault = .unreadable

/-- Several of the certificates have the serial number of the signer, and on the way to the first
that has its issuer stands one with an unreadable name. -/
def Signer.Tied (s : Signer) (certificates : List Certificate) : Prop :=
  ∃ before c after, certificates.filter (·.serial == s.serial) = before ++ c :: after ∧
    before ++ after ≠ [] ∧ c.issuer.text = .error .unreadable ∧ ∀ d ∈ before, d.issuer.der ≠ s.issuer

namespace SignatureReader

variable (reader : SignatureReader)

/-- The countersigners of the signers of an element, those that can be read. -/
def countersignersOf (der : Octets) : List Signer :=
  ((reader.signersOf der).flatMap Signer.carried).filterMap fun (type, value) =>
    if type = countersignatureAttribute then
      match reader.signer value with
      | .ok (some s) => some s
      | _ => none
    else none

/-- The blob ends the reading of all signatures. -/
def Unreadable (blob : Octets) : Prop :=
  ∃ der, element? blob = some der ∧
    ((∃ version, reader.certificates der = .error (.certificateVersion version)) ∨
      ∃ s ∈ reader.signersOf der ++ reader.countersignersOf der, s.Tied (reader.certificatesOf der))

end SignatureReader

/-- The faults that documented decoders leave to end a walk. -/
def SignatureFault.Uncaught (fault : SignatureFault) : Prop :=
  fault = .name .unreadable ∨
    ∃ version, version ≠ 0 ∧ version ≠ 2 ∧ fault = .certificateVersion version

/-! ## Ties -/

/-- The search for an issuer fails on an unreadable name that it comes to. -/
theorem fault_of_firstIssuedBy {issuer : Octets} {certificates : List Certificate}
    {fault : SignatureFault} (failed : firstIssuedBy issuer certificates = .error fault) :
    ∃ before c after nameFault, certificates = before ++ c :: after ∧
      c.issuer.text = .error nameFault ∧ fault = .name nameFault ∧
      ∀ d ∈ before, d.issuer.der ≠ issuer := by
  induction certificates with
  | nil => cases failed
  | cons c rest ih =>
    rw [firstIssuedBy] at failed
    cases text : c.issuer.text with
    | error nameFault =>
      rw [text] at failed
      cases failed
      exact ⟨[], c, rest, nameFault, rfl, text, rfl, by simp⟩
    | ok s =>
      rw [text] at failed
      by_cases same : c.issuer.der = issuer
      · simp only [if_pos same, reduceCtorEq] at failed
      · simp only [if_neg same] at failed
        obtain ⟨before, d, after, nameFault, rfl, unreadable, named, other⟩ := ih failed
        exact ⟨c :: before, d, after, nameFault, rfl, unreadable, named,
          List.forall_mem_cons.2 ⟨same, other⟩⟩

/-- An unreadable name with no issuer found before it is come to. -/
theorem firstIssuedBy_fails {issuer : Octets} {before : List Certificate} {c : Certificate}
    {nameFault : NameFault} (unreadable : c.issuer.text = .error nameFault)
    (other : ∀ d ∈ before, d.issuer.der ≠ issuer) (after : List Certificate) :
    ∃ fault, firstIssuedBy issuer (before ++ c :: after) = .error fault := by
  induction before with
  | nil => exact ⟨.name nameFault, by rw [List.nil_append, firstIssuedBy, unreadable]⟩
  | cons d before ih =>
    rw [List.cons_append, firstIssuedBy]
    cases d.issuer.text with
    | error fault => exact ⟨_, rfl⟩
    | ok s =>
      have notHere : d.issuer.der ≠ issuer := other d (by simp)
      simp only [if_neg notHere]
      exact ih fun e he => other e (by simp [he])

namespace Signer

variable {s : Signer} {certificates : List Certificate}

/-- The certificate of a signer is looked for by its issuer when there are several. -/
theorem certificate?_of_several {c d : Certificate} {rest : List Certificate}
    (several : certificates.filter (·.serial == s.serial) = c :: d :: rest) :
    s.certificate? certificates =
      (firstIssuedBy s.issuer (c :: d :: rest)).map fun found? => some (found?.getD c) := by
  rw [certificate?, several]

theorem fault_of_certificate? {fault : SignatureFault}
    (readable : ∀ c ∈ certificates, ∀ nameFault, c.issuer.text = .error nameFault →
      nameFault = .unreadable)
    (failed : s.certificate? certificates = .error fault) :
    fault = .name .unreadable ∧ s.Tied certificates := by
  cases several : certificates.filter (·.serial == s.serial) with
  | nil => rw [certificate?, several] at failed; cases failed
  | cons c rest =>
    cases rest with
    | nil => rw [certificate?, several] at failed; cases failed
    | cons d rest =>
      rw [certificate?_of_several several] at failed
      cases found : firstIssuedBy s.issuer (c :: d :: rest) with
      | ok found? => rw [found] at failed; cases failed
      | error fault' =>
        rw [found] at failed
        cases failed
        obtain ⟨before, e, after, nameFault, split, unreadable, rfl, other⟩ :=
          fault_of_firstIssuedBy found
        have there : e ∈ certificates := by
          have candidate : e ∈ certificates.filter (·.serial == s.serial) := by
            rw [several, split]
            simp
          exact (List.mem_filter.1 candidate).1
        obtain rfl := readable e there nameFault unreadable
        refine ⟨rfl, before, e, after, several.trans split, ?_, unreadable, other⟩
        rintro alone
        have lengths := congrArg List.length split
        rw [List.append_eq_nil_iff] at alone
        simp [alone.1, alone.2] at lengths

theorem Tied.certificate? (tied : s.Tied certificates) :
    ∃ fault, s.certificate? certificates = .error fault := by
  obtain ⟨before, e, after, split, several, unreadable, other⟩ := tied
  obtain ⟨fault, failed⟩ := firstIssuedBy_fails unreadable other after
  cases candidates : before ++ e :: after with
  | nil => simp at candidates
  | cons c rest =>
    cases rest with
    | nil =>
      have lengths := congrArg List.length candidates
      simp only [List.length_append, List.length_cons, List.length_nil] at lengths
      refine absurd (List.length_eq_zero_iff.1 ?_) several
      rw [List.length_append]
      omega
    | cons d rest =>
      refine ⟨fault, ?_⟩
      rw [certificate?_of_several (split.trans candidates), ← candidates, failed]
      rfl

end Signer

/-! ## Visits -/

theorem meets_eq_error_iff {s : Signer} {certificates : List Certificate} {kind : SignatureKind}
    {missing : Problem} {fault : SignatureFault} :
    s.meets certificates kind missing = .error fault ↔ s.certificate? certificates = .error fault := by
  rw [Signer.meets]
  cases s.certificate? certificates <;> simp [Except.map]

namespace SignatureReader

variable {reader : SignatureReader}

theorem mem_countersignersOf {der : Octets} {t : Signer} :
    t ∈ reader.countersignersOf der ↔
      ∃ s ∈ reader.signersOf der, ∃ value, (countersignatureAttribute, value) ∈ s.carried ∧
        reader.signer value = .ok (some t) := by
  simp only [countersignersOf, List.mem_filterMap, List.mem_flatMap, Prod.exists]
  constructor
  · rintro ⟨type, value, ⟨s, signs, carries⟩, read⟩
    split at read
    next counter =>
      subst counter
      refine ⟨s, signs, value, carries, ?_⟩
      cases signer : reader.signer value with
      | error fault => rw [signer] at read; cases read
      | ok t? =>
        cases t? with
        | none => rw [signer] at read; cases read
        | some t' => rw [signer] at read; cases read; rfl
    · cases read
  · rintro ⟨s, signs, value, carries, signer⟩
    refine ⟨_, value, ⟨s, signs, carries⟩, ?_⟩
    rw [if_pos rfl, signer]

theorem countersigner_eq_error_iff (documented : reader.Documented) {value : Octets}
    {certificates : List Certificate} {fault : SignatureFault} :
    reader.countersigner value certificates = .error fault ↔
      ∃ t, reader.signer value = .ok (some t) ∧ t.certificate? certificates = .error fault := by
  unfold countersigner
  cases signer : reader.signer value with
  | error other => exact absurd signer documented.signer
  | ok t? =>
    cases t? with
    | none => simp
    | some t => simp [meets_eq_error_iff]

/-- A countersignature carries no blob of its own. -/
theorem carriedKind?_countersignature : carriedKind? countersignatureAttribute = none := by decide

theorem mem_attributeTrace_nil {certificates : List Certificate} {type : ObjectId} {value : Octets}
    {m : Meeting} :
    m ∈ reader.attributeTrace (fun _ _ => []) certificates type value ↔
      type = countersignatureAttribute ∧ m = reader.countersigner value certificates := by
  unfold attributeTrace
  by_cases counter : type = countersignatureAttribute
  · subst counter
    simp [carriedKind?_countersignature]
  · cases carriedKind? type <;> simp [counter]

/-- What a signer meets besides the blobs that it carries. -/
theorem mem_signerTrace_nil {certificates : List Certificate} {kind : SignatureKind} {s : Signer}
    {m : Meeting} :
    m ∈ reader.signerTrace (fun _ _ => []) certificates kind s ↔
      m = s.meets certificates kind .signerCertificateMissing ∨
      ∃ value, (countersignatureAttribute, value) ∈ s.carried ∧
        m = reader.countersigner value certificates := by
  simp only [signerTrace, List.mem_cons, List.mem_flatMap, Prod.exists, mem_attributeTrace_nil]
  constructor
  · rintro (met | ⟨type, value, carries, rfl, met⟩)
    · exact .inl met
    · exact .inr ⟨value, carries, met⟩
  · rintro (met | ⟨value, carries, met⟩)
    · exact .inl met
    · exact .inr ⟨_, value, carries, rfl, met⟩

/-- A fault that signers and countersigners meet comes from a certificate that is looked for. -/
theorem fault_mem_signers (documented : reader.Documented) {der : Octets} {kind : SignatureKind}
    {fault : SignatureFault} :
    .error fault ∈ (reader.signersOf der).flatMap
        (reader.signerTrace (fun _ _ => []) (reader.certificatesOf der) kind) ↔
      ∃ s ∈ reader.signersOf der ++ reader.countersignersOf der,
        s.certificate? (reader.certificatesOf der) = .error fault := by
  simp only [List.mem_flatMap, mem_signerTrace_nil, List.mem_append, mem_countersignersOf,
    @eq_comm Meeting (.error fault), meets_eq_error_iff, countersigner_eq_error_iff documented]
  constructor
  · rintro ⟨s, signs, failed | ⟨value, carries, t, signer, failed⟩⟩
    · exact ⟨s, .inl signs, failed⟩
    · exact ⟨t, .inr ⟨s, signs, value, carries, signer⟩, failed⟩
  · rintro ⟨t, signs | ⟨s, signs, value, carries, signer⟩, failed⟩
    · exact ⟨t, signs, .inl failed⟩
    · exact ⟨s, signs, .inr ⟨value, carries, t, signer, failed⟩⟩

theorem fault_mem_certificatesMet {der : Octets} {fault : SignatureFault} :
    .error fault ∈ reader.certificatesMet der ↔ reader.certificates der = .error fault := by
  unfold certificatesMet
  cases reader.certificates der with
  | error other => simp [eq_comm]
  | ok read => cases read <;> simp

theorem fault_not_mem_contentMet (documented : reader.Documented) {der : Octets}
    {fault : SignatureFault} : .error fault ∉ reader.contentMet der := by
  unfold contentMet
  cases content : reader.content der with
  | error other => exact absurd content documented.content
  | ok content? =>
    cases content? with
    | none => simp
    | some held => cases held <;> simp

/-- A visit meets a fault in its own blob only if the blob is unreadable. -/
theorem unreadable_of_fault_mem_own (documented : reader.Documented) {maxDepth : Int} {v : Visit}
    {fault : SignatureFault} (met : .error fault ∈ reader.own maxDepth v) :
    fault.Uncaught ∧ 0 < v.levels ∧ reader.Unreadable v.blob := by
  obtain ⟨levels, blob, kind⟩ := v
  cases levels with
  | zero => simp [own] at met
  | succ levels =>
    cases front : element? blob with
    | none => simp [own, front] at met
    | some der =>
      simp only [own, front, List.mem_append, fault_mem_certificatesMet,
        fault_not_mem_contentMet documented, or_false, fault_mem_signers documented] at met
      rcases met with failed | ⟨s, signs, failed⟩
      · obtain ⟨version, notFirst, notThird, rfl⟩ := documented.certificates failed
        exact ⟨.inr ⟨version, notFirst, notThird, rfl⟩, Nat.succ_pos _,
          der, front, .inl ⟨version, failed⟩⟩
      · obtain ⟨rfl, tied⟩ := Signer.fault_of_certificate?
          (fun c there fault unreadable => documented.issuer there unreadable) failed
        have named := List.mem_append.2 signs
        exact ⟨.inl rfl, Nat.succ_pos _, der, front, .inr ⟨s, named, tied⟩⟩

/-- Every visit of an unreadable blob meets a fault. -/
theorem exists_fault_mem_own (documented : reader.Documented) (maxDepth : Int) {v : Visit}
    (entered : 0 < v.levels) (unreadable : reader.Unreadable v.blob) :
    ∃ fault, .error fault ∈ reader.own maxDepth v := by
  obtain ⟨levels, blob, kind⟩ := v
  cases levels with
  | zero => cases entered
  | succ levels =>
    obtain ⟨der, front, ⟨version, failed⟩ | ⟨s, signs, tied⟩⟩ := unreadable
    · refine ⟨.certificateVersion version, ?_⟩
      simp only [own, front, List.mem_append, fault_mem_certificatesMet]
      exact .inl (.inl failed)
    · obtain ⟨fault, failed⟩ := tied.certificate?
      refine ⟨fault, ?_⟩
      simp only [own, front]
      exact List.mem_append_right _ ((fault_mem_signers documented).2 ⟨s, signs, failed⟩)

/-- A walk meets a fault exactly when it enters an unreadable blob. -/
theorem exists_fault_mem_trace_iff (documented : reader.Documented) {maxDepth : Int} {levels : Nat}
    {blob : Octets} {kind : SignatureKind} :
    (∃ fault, .error fault ∈ reader.trace maxDepth levels blob kind) ↔
      ∃ v, Reaches reader ⟨levels, blob, kind⟩ v ∧ 0 < v.levels ∧ reader.Unreadable v.blob := by
  constructor
  · rintro ⟨fault, met⟩
    obtain ⟨v, reached, met⟩ := mem_trace_iff.1 met
    exact ⟨v, reached, (unreadable_of_fault_mem_own documented met).2⟩
  · rintro ⟨v, reached, entered, unreadable⟩
    obtain ⟨fault, met⟩ := exists_fault_mem_own documented maxDepth entered unreadable
    exact ⟨fault, mem_trace_iff.2 ⟨v, reached, met⟩⟩

/-- What ends a walk is one of the two documented faults that nothing makes a problem of. -/
theorem uncaught_of_mem_trace (documented : reader.Documented) {maxDepth : Int} {levels : Nat}
    {blob : Octets} {kind : SignatureKind} {fault : SignatureFault}
    (met : .error fault ∈ reader.trace maxDepth levels blob kind) : fault.Uncaught := by
  obtain ⟨v, -, met⟩ := mem_trace_iff.1 met
  exact (unreadable_of_fault_mem_own documented met).1

end SignatureReader

/-! ## Certificates -/

theorem mem_of_firstIssuedBy {issuer : Octets} {certificates : List Certificate} {c : Certificate}
    (found : firstIssuedBy issuer certificates = .ok (some c)) : c ∈ certificates := by
  induction certificates with
  | nil => cases found
  | cons d rest ih =>
    rw [firstIssuedBy] at found
    cases text : d.issuer.text with
    | error fault => rw [text] at found; cases found
    | ok s =>
      rw [text] at found
      by_cases same : d.issuer.der = issuer
      · simp only [if_pos same] at found
        cases found
        simp
      · simp only [if_neg same] at found
        exact List.mem_cons_of_mem _ (ih found)

/-- The certificate of a signer is one of those it is looked for in. -/
theorem mem_of_certificate? {s : Signer} {certificates : List Certificate} {c : Certificate}
    (found : s.certificate? certificates = .ok (some c)) : c ∈ certificates := by
  have candidate : c ∈ certificates.filter (·.serial == s.serial) := by
    rw [Signer.certificate?] at found
    cases several : certificates.filter (·.serial == s.serial) with
    | nil => rw [several] at found; cases found
    | cons d rest =>
      rw [several] at found
      cases rest with
      | nil => cases found; simp
      | cons e rest =>
        cases first : firstIssuedBy s.issuer (d :: e :: rest) with
        | error fault => simp [first, Except.map] at found
        | ok found? =>
          simp only [first, Except.map, Except.ok.injEq, Option.some.injEq] at found
          cases found? with
          | none => rw [← found]; simp
          | some f => rw [← found]; exact mem_of_firstIssuedBy first
  exact (List.mem_filter.1 candidate).1

theorem mem_of_meets {s : Signer} {certificates : List Certificate} {kind part : SignatureKind}
    {missing : Problem} {c : Certificate}
    (met : s.meets certificates kind missing = .ok (.certificate c part)) : c ∈ certificates := by
  rw [Signer.meets] at met
  cases found : s.certificate? certificates with
  | error fault => rw [found] at met; cases met
  | ok found? =>
    rw [found] at met
    cases found? with
    | none => cases met
    | some d => cases met; exact mem_of_certificate? found

namespace SignatureReader

variable {reader : SignatureReader}

/-- The certificates that a walk meets are those of some blob. -/
theorem mem_certificatesOf_of_mem_own {maxDepth : Int} {v : Visit} {c : Certificate}
    {kind : SignatureKind} (met : .ok (.certificate c kind) ∈ reader.own maxDepth v) :
    ∃ der, c ∈ reader.certificatesOf der := by
  obtain ⟨levels, blob, part⟩ := v
  cases levels with
  | zero => simp [own] at met
  | succ levels =>
    cases front : element? blob with
    | none => simp [own, front] at met
    | some der =>
      refine ⟨der, ?_⟩
      simp only [own, front, List.mem_append, List.mem_flatMap, mem_signerTrace_nil] at met
      rcases met with (met | met) | ⟨s, -, met | ⟨value, -, met⟩⟩
      · unfold certificatesMet at met
        split at met <;> simp at met
      · unfold contentMet at met
        split at met
        · simp at met
        · rcases List.mem_cons.1 met with first | bare
          · cases first
          · obtain ⟨d, there, same⟩ := List.mem_map.1 bare
            cases same
            exact there
        · simp at met
        · simp at met
      · exact mem_of_meets met.symm
      · unfold countersigner at met
        split at met
        · cases met
        · cases met
        · exact mem_of_meets met.symm

end SignatureReader

end PeFacts
