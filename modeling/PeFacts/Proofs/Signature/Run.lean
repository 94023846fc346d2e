import PeFacts.Proofs.Signature.Fault

/-!
# What a walk comes to

A walk without faults keeps the records of the certificates that it meets, up to 64 of them, and
notes the problems that it meets in their order (`ran_of_legible`). A walk with a fault ends with one
and gives nothing (`fails_of_fault`).
-/

namespace PeFacts

/-- The record of a certificate that is met. -/
def recordMet? : Meeting → Option SignatureRecord
  | .ok (.certificate c kind) => (SignatureRecord.ofCertificate c kind).toOption
  | _ => none

/-- The problem that is met, which may be that of a certificate. -/
def problemMet? : Meeting → Option Problem
  | .ok (.problem p) => some p
  | .ok (.certificate c kind) =>
    if (SignatureRecord.ofCertificate c kind).toBool then none else some .certificateFieldsUnreadable
  | .error _ => none

/-- What `w'` has found and noted beyond `w` is what the trace meets. Once there are enough records,
certificates are not looked at. -/
structure Ran (w : Walked) (ms : List Meeting) (w' : Walked) : Prop where
  found : w'.found.toList =
    (w.found.toList ++ ms.filterMap recordMet?).take maxSignatureRecords
  noted : ∃ ps, w'.problems.toList = w.problems.toList ++ ps ∧
    ps.Sublist (ms.filterMap problemMet?) ∧ (∀ p, .ok (.problem p) ∈ ms → p ∈ ps) ∧
    (w'.found.size < maxSignatureRecords → ps = ms.filterMap problemMet?)

/-- The certificate has no flaw beyond an unreadable field. -/
def Certificate.Legible (c : Certificate) : Prop :=
  ∀ kind fault, SignatureRecord.ofCertificate c kind = .error fault → fault = .unreadable

theorem take_append_take {α : Type} (n : Nat) (as bs : List α) :
    (as.take n ++ bs).take n = (as ++ bs).take n := by
  have left : n - min n as.length = n - as.length := by omega
  rw [List.take_append, List.take_append, List.take_take, List.length_take, Nat.min_self, left]

theorem take_append_congr {α : Type} {n : Nat} {bs cs : List α} (as : List α)
    (same : bs.take n = cs.take n) : (as ++ bs).take n = (as ++ cs).take n := by
  have rest := congrArg (List.take (n - as.length)) same
  rw [List.take_take, List.take_take, Nat.min_eq_left (Nat.sub_le _ _)] at rest
  rw [List.take_append, List.take_append, rest]

/-- The first of all items are among the first of each part. -/
theorem take_flatMap_take {α β : Type} (n : Nat) (f : α → List β) (as : List α) :
    (as.flatMap fun a => (f a).take n).take n = (as.flatMap f).take n := by
  induction as with
  | nil => rfl
  | cons a as ih =>
    rw [List.flatMap_cons, List.flatMap_cons, take_append_take]
    exact take_append_congr (f a) ih

namespace Ran

variable {w w' w'' : Walked} {ms ns : List Meeting}

theorem refl (bounded : w.found.size ≤ maxSignatureRecords) : Ran w [] w where
  found := by
    rw [List.filterMap_nil, List.append_nil, List.take_of_length_le]
    simpa using bounded
  noted := ⟨[], by simp⟩

theorem bounded (h : Ran w ms w') : w'.found.size ≤ maxSignatureRecords := by
  rw [← Array.length_toList, h.found, List.length_take]
  exact Nat.min_le_left _ _

/-- A walk that has enough records keeps them. -/
theorem enough (h : Ran w ms w') (full : maxSignatureRecords ≤ w.found.size) :
    maxSignatureRecords ≤ w'.found.size := by
  rw [← Array.length_toList, h.found, List.length_take, List.length_append, Array.length_toList]
  omega

theorem append (h : Ran w ms w') (h' : Ran w' ns w'') : Ran w (ms ++ ns) w'' where
  found := by
    rw [h'.found, h.found, take_append_take, List.append_assoc, ← List.filterMap_append]
  noted := by
    obtain ⟨ps, noted, sub, all, whole⟩ := h.noted
    obtain ⟨qs, noted', sub', all', whole'⟩ := h'.noted
    refine ⟨ps ++ qs, ?_, ?_, ?_, ?_⟩
    · rw [noted', noted, List.append_assoc]
    · rw [List.filterMap_append]
      exact sub.append sub'
    · intro p met
      rcases List.mem_append.1 met with first | second
      · exact List.mem_append_left _ (all p first)
      · exact List.mem_append_right _ (all' p second)
    · intro few
      have few' : w'.found.size < maxSignatureRecords :=
        Nat.lt_of_not_le fun full => Nat.not_le.2 few (h'.enough full)
      rw [whole few', whole' few, List.filterMap_append]

/-- A record that a walk meets is found, unless there are enough. -/
theorem found_or_full (ran : Ran w ms w') {m : Meeting} (there : m ∈ ms) {r : SignatureRecord}
    (met : recordMet? m = some r) :
    r ∈ w'.found.toList ∨ w'.found.size = maxSignatureRecords := by
  have listed : r ∈ w.found.toList ++ ms.filterMap recordMet? :=
    List.mem_append_right _ (List.mem_filterMap.2 ⟨m, there, met⟩)
  rw [← Array.length_toList, ran.found]
  by_cases few : (w.found.toList ++ ms.filterMap recordMet?).length ≤ maxSignatureRecords
  · left
    rwa [List.take_of_length_le few]
  · right
    rw [List.length_take]
    omega

/-- A problem that a walk meets is noted, unless it is passed over. -/
theorem noted_or_full (ran : Ran w ms w') {m : Meeting} (there : m ∈ ms) {p : Problem}
    (met : problemMet? m = some p) :
    p ∈ w'.problems.toList ∨
      p = .certificateFieldsUnreadable ∧ w'.found.size = maxSignatureRecords := by
  obtain ⟨ps, noted, -, all, whole⟩ := ran.noted
  by_cases few : w'.found.size < maxSignatureRecords
  · left
    rw [noted, whole few]
    exact List.mem_append_right _ (List.mem_filterMap.2 ⟨m, there, met⟩)
  · have full := Nat.le_antisymm ran.bounded (Nat.not_lt.1 few)
    match m with
    | .ok (.problem p') =>
      cases met
      left
      rw [noted]
      exact List.mem_append_right _ (all p there)
    | .ok (.certificate c kind) =>
      right
      rw [problemMet?] at met
      split at met
      · cases met
      · cases met
        exact ⟨rfl, full⟩
    | .error fault => cases met

end Ran

/-! ## What a run keeps -/

/-- What every step keeps, a run keeps. -/
theorem run_keeps {P : Walked → Prop} {ms : List Meeting}
    (step : ∀ m ∈ ms, ∀ w w', P w → w.step m = .ok w' → P w') {w w' : Walked} (h : P w)
    (run : ms.foldlM Walked.step w = .ok w') : P w' := by
  induction ms generalizing w with
  | nil =>
    cases run
    exact h
  | cons m ms ih =>
    rw [List.foldlM_cons] at run
    cases first : w.step m with
    | error fault =>
      rw [first] at run
      cases run
    | ok mid =>
      rw [first] at run
      exact ih (fun m hm => step m (List.mem_cons_of_mem _ hm))
        (step m List.mem_cons_self w mid h first) run

/-- A step keeps a record, notes a problem, or changes nothing. -/
theorem step_cases {w w' : Walked} {m : Meeting} (h : w.step m = .ok w') :
    (∃ r, recordMet? m = some r ∧ w.found.size < maxSignatureRecords ∧ w' = w.keep r) ∨
      (∃ p, problemMet? m = some p ∧ w' = w.report p) ∨ w' = w := by
  match m with
  | .error fault => cases h
  | .ok (.problem p) =>
    cases h
    exact .inr (.inl ⟨p, rfl, rfl⟩)
  | .ok (.certificate c kind) =>
    rw [Walked.step, Walked.add] at h
    split at h
    · cases h
      exact .inr (.inr rfl)
    next room =>
      cases record : SignatureRecord.ofCertificate c kind with
      | ok r =>
        rw [record] at h
        cases h
        exact .inl ⟨r, by rw [recordMet?, record]; rfl, Nat.not_le.1 room, rfl⟩
      | error fault =>
        rw [record] at h
        cases fault with
        | unreadable =>
          cases h
          exact .inr (.inl ⟨_, by rw [problemMet?, record]; rfl, rfl⟩)
        | _ => cases h

/-- However many certificates are met, no more than 64 records are kept. -/
theorem bounded_of_run {ms : List Meeting} {w w' : Walked} (run : ms.foldlM Walked.step w = .ok w')
    (bounded : w.found.size ≤ maxSignatureRecords) : w'.found.size ≤ maxSignatureRecords := by
  refine run_keeps (P := fun w => w.found.size ≤ maxSignatureRecords) ?_ bounded run
  intro m _ w w' bounded stepped
  obtain ⟨r, -, room, rfl⟩ | ⟨p, -, rfl⟩ | rfl := step_cases stepped
  · simp only [Reading.keep, Array.size_push]
    omega
  · exact bounded
  · exact bounded

/-- What grows in each step by what is met, if at all, holds nothing else in the end. -/
theorem met_of_run {α : Type} {items : Walked → List α} {met? : Meeting → Option α}
    (step : ∀ w w' m, w.step m = .ok w' →
      items w' = items w ∨ ∃ a, met? m = some a ∧ items w' = items w ++ [a])
    {ms : List Meeting} {w w' : Walked} (run : ms.foldlM Walked.step w = .ok w') :
    ∀ a ∈ items w', a ∈ items w ∨ ∃ m ∈ ms, met? m = some a := by
  refine run_keeps (P := fun w' => ∀ a ∈ items w', a ∈ items w ∨ ∃ m ∈ ms, met? m = some a) ?_
    (fun a there => .inl there) run
  intro m hm v v' before stepped a there
  obtain same | ⟨b, met, more⟩ := step v v' m stepped
  · exact before a (same ▸ there)
  · rw [more, List.mem_append, List.mem_singleton] at there
    obtain old | rfl := there
    · exact before a old
    · exact .inr ⟨m, hm, met⟩

/-- A run notes what it meets and nothing else. -/
theorem mem_problems_of_run {ms : List Meeting} {w w' : Walked}
    (run : ms.foldlM Walked.step w = .ok w') {p : Problem} (there : p ∈ w'.problems.toList) :
    p ∈ w.problems.toList ∨ ∃ m ∈ ms, problemMet? m = some p := by
  refine @met_of_run _ (fun w => w.problems.toList) problemMet? (fun w w' m stepped => ?_) _ _ _ run p there
  obtain ⟨r, -, -, rfl⟩ | ⟨q, met, rfl⟩ | rfl := step_cases stepped
  · exact .inl rfl
  · exact .inr ⟨q, met, Array.toList_push⟩
  · exact .inl rfl

/-- A run keeps records of what it meets and no others. -/
theorem mem_found_of_run {ms : List Meeting} {w w' : Walked}
    (run : ms.foldlM Walked.step w = .ok w') {r : SignatureRecord} (there : r ∈ w'.found.toList) :
    r ∈ w.found.toList ∨ ∃ m ∈ ms, recordMet? m = some r := by
  refine @met_of_run _ (fun w => w.found.toList) recordMet? (fun w w' m stepped => ?_) _ _ _ run r there
  obtain ⟨s, met, -, rfl⟩ | ⟨p, -, rfl⟩ | rfl := step_cases stepped
  · exact .inr ⟨s, met, Array.toList_push⟩
  · exact .inl rfl
  · exact .inl rfl

/-! ## Runs without faults -/

/-- One step on a meeting that is no fault. -/
theorem ran_step {w : Walked} (e : Event) (bounded : w.found.size ≤ maxSignatureRecords)
    (legible : ∀ c kind, e = .certificate c kind → c.Legible) :
    ∃ w', w.step (.ok e) = .ok w' ∧ Ran w [.ok e] w' := by
  have kept : w.found.toList.take maxSignatureRecords = w.found.toList :=
    List.take_of_length_le (by simpa using bounded)
  cases e with
  | problem p =>
    refine ⟨w.report p, rfl, ?_, [p], ?_⟩
    · have unrecorded : recordMet? (.ok (.problem p)) = none := rfl
      rw [List.filterMap_cons_none unrecorded, List.filterMap_nil, List.append_nil]
      exact kept.symm
    · simp [problemMet?, Reading.report]
  | certificate c kind =>
    by_cases full : maxSignatureRecords ≤ w.found.size
    · refine ⟨w, by rw [Walked.step, Walked.add, if_pos full], ?_, [], ?_⟩
      · rw [List.take_append_of_le_length (by simpa using full), kept]
      · simp [Nat.not_lt.2 full]
    · cases record : SignatureRecord.ofCertificate c kind with
      | ok r =>
        refine ⟨w.keep r, by rw [Walked.step, Walked.add, if_neg full, record], ?_, [], ?_⟩
        · rw [List.take_of_length_le]
          · simp [recordMet?, record, Except.toOption, Reading.keep]
          · simp [recordMet?, record, Except.toOption]
            omega
        · simp [problemMet?, record, Except.toBool, Reading.keep]
      | error fault =>
        obtain rfl := legible c kind rfl kind fault record
        refine ⟨w.report .certificateFieldsUnreadable,
          by rw [Walked.step, Walked.add, if_neg full, record], ?_, [.certificateFieldsUnreadable], ?_⟩
        · simpa [recordMet?, record, Except.toOption, Reading.report] using kept.symm
        · simp [problemMet?, record, Except.toBool, Reading.report]

/-- A run without faults comes to an end. -/
theorem ran_of_legible (ms : List Meeting) (w : Walked)
    (bounded : w.found.size ≤ maxSignatureRecords) (sound : ∀ fault, .error fault ∉ ms)
    (legible : ∀ c kind, .ok (.certificate c kind) ∈ ms → c.Legible) :
    ∃ w', ms.foldlM Walked.step w = .ok w' ∧ Ran w ms w' := by
  induction ms generalizing w with
  | nil => exact ⟨w, rfl, .refl bounded⟩
  | cons m ms ih =>
    cases m with
    | error fault => exact absurd (List.mem_cons_self ..) (sound fault)
    | ok e =>
      obtain ⟨mid, first, ran⟩ := ran_step e bounded fun c kind same =>
        legible c kind (by simp [same])
      obtain ⟨w', rest, ran'⟩ := ih mid ran.bounded
        (fun fault met => sound fault (List.mem_cons_of_mem _ met))
        (fun c kind met => legible c kind (List.mem_cons_of_mem _ met))
      exact ⟨w', by rw [List.foldlM_cons, first]; exact rest, ran.append ran'⟩

/-- A run with a fault ends with one. -/
theorem fails_of_fault (ms : List Meeting) (w : Walked)
    (bounded : w.found.size ≤ maxSignatureRecords) {fault : SignatureFault} (met : .error fault ∈ ms)
    (legible : ∀ c kind, .ok (.certificate c kind) ∈ ms → c.Legible) :
    ∃ fault', .error fault' ∈ ms ∧ ms.foldlM Walked.step w = .error fault' := by
  induction ms generalizing w with
  | nil => cases met
  | cons m ms ih =>
    cases m with
    | error fault' => exact ⟨fault', List.mem_cons_self .., rfl⟩
    | ok e =>
      obtain ⟨mid, first, ran⟩ := ran_step e bounded fun c kind same =>
        legible c kind (by simp [same])
      obtain ⟨fault', met', rest⟩ := ih mid ran.bounded (by simpa using met)
        (fun c kind met => legible c kind (List.mem_cons_of_mem _ met))
      exact ⟨fault', List.mem_cons_of_mem _ met', by rw [List.foldlM_cons, first]; exact rest⟩

/-- With decoders that fail only as they are documented to, a walk meets legible certificates. -/
theorem SignatureReader.legible_of_mem_trace {reader : SignatureReader} (documented : reader.Documented)
    {maxDepth : Int} {levels : Nat} {blob : Asn1.Octets} {part kind : SignatureKind}
    {c : Certificate} (met : .ok (.certificate c kind) ∈ reader.trace maxDepth levels blob part) : c.Legible := by
  obtain ⟨v, -, own⟩ := SignatureReader.mem_trace_iff.1 met
  obtain ⟨der, there⟩ := SignatureReader.mem_certificatesOf_of_mem_own own
  intro part fault failed
  unfold SignatureRecord.ofCertificate at failed
  split at failed
  · cases failed
    rfl
  · cases issuer : c.issuer.text with
    | error fault' =>
      rw [issuer] at failed
      cases failed
      exact documented.issuer there issuer
    | ok text =>
      rw [issuer] at failed
      cases subject : c.subject.text with
      | error fault' =>
        rw [subject] at failed
        cases failed
        exact documented.subject there subject
      | ok text' =>
        rw [subject] at failed
        cases failed

end PeFacts
