import Mathlib
import PeFacts.Proofs.Mapping.Buffer
import PeFacts.Proofs.Signature.Table
import PeFacts.Proofs.Stored.Field

/-!
# Entries of a certificate table

A certificate table is a run of entries that each say how long they are. `visited` lists those that
are visited, whatever the bytes of the file: they stand apart, inside the directory, and their
signature blobs are what is walked (`framed`). A table that is written entry by entry, each padded to
a multiple of eight bytes, is walked as it was written (`read_laidOut`).
-/

namespace PeFacts

open Asn1

namespace CertificateTable

/-- An entry of the table: where it stands, how long it is with its header, and its type. -/
structure Entry where
  offset : Nat
  length : Nat
  type : Nat
  deriving Repr, DecidableEq

namespace Entry

/-- Where the entry ends. -/
def stop (e : Entry) : Nat := e.offset + e.length

/-- Where another entry would stand behind it. -/
def next (e : Entry) : Nat := e.offset + align8 e.length

/-- What the entry holds. -/
def blob (data : Bytes) (e : Entry) : Octets := (data.extract (e.offset + headerSize) e.stop).toList

/-- The entry holds a signature. -/
def isSignature (e : Entry) : Bool := e.type = signatureType

end Entry

/-- The entries that are visited from `off` on, as long as `left` allows: each must be wholly before
`stop`. -/
def visitedFrom (data : Bytes) (stop off : Nat) : (left : Nat) → List Entry
  | 0 => []
  | left + 1 =>
    let length := data.number off 4
    if stop < off + headerSize ∨ length < headerSize ∨ stop < off + length then []
    else ⟨off, length, data.number (off + 6) 2⟩ :: visitedFrom data stop (off + align8 length) left

/-- The entries that are visited in the directory at `offset`. -/
def visited (data : Bytes) (offset size maxCertificates : Int) : List Entry :=
  match Address.checkedSum [some offset, some size] with
  | none => []
  | some stop =>
    visitedFrom data (min stop.toNat data.size) offset.toNat maxCertificates.toNat

/-- Where another entry would stand behind these, which begin at `off`. -/
def behind (off : Nat) : List Entry → Nat
  | [] => off
  | e :: rest => behind e.next rest

variable {data data' : Bytes} {stop off left : Nat}

theorem le_align8 (n : Nat) : n ≤ align8 n := by
  unfold align8
  omega

/-! ## Which entries are visited -/

/-- An entry that is visited is long enough for its header and ends before the directory does. -/
theorem of_mem_visitedFrom {e : Entry} (there : e ∈ visitedFrom data stop off left) :
    off ≤ e.offset ∧ headerSize ≤ e.length ∧ e.stop ≤ stop ∧
      e.length = data.number e.offset 4 ∧ e.type = data.number (e.offset + 6) 2 := by
  induction left generalizing off with
  | zero => cases there
  | succ left ih =>
    rw [visitedFrom] at there
    split at there
    · cases there
    next valid =>
      rcases List.mem_cons.1 there with rfl | later
      · have long : headerSize ≤ data.number off 4 := by omega
        refine ⟨Nat.le_refl _, long, ?_, rfl, rfl⟩
        simp only [Entry.stop]
        omega
      · obtain ⟨before, rest⟩ := ih later
        exact ⟨by omega, rest⟩

/-- The entries stand apart, in the order in which they are visited. -/
theorem visitedFrom_pairwise :
    (visitedFrom data stop off left).Pairwise fun e e' => e.stop ≤ e'.offset := by
  induction left generalizing off with
  | zero => exact .nil
  | succ left ih =>
    rw [visitedFrom]
    split
    · exact .nil
    · refine .cons (fun e later => ?_) ih
      have past := (of_mem_visitedFrom later).1
      have long := le_align8 (data.number off 4)
      simp only [Entry.stop]
      omega

theorem length_visitedFrom_le (data : Bytes) (stop off left : Nat) :
    (visitedFrom data stop off left).length ≤ left := by
  induction left generalizing off with
  | zero => exact Nat.le_refl _
  | succ left ih =>
    rw [visitedFrom]
    split
    · exact Nat.zero_le _
    · exact Nat.succ_le_succ (ih _)

theorem le_behind (data : Bytes) (stop off left : Nat) :
    off ≤ behind off (visitedFrom data stop off left) := by
  induction left generalizing off with
  | zero => exact Nat.le_refl _
  | succ left ih =>
    rw [visitedFrom]
    split
    · exact Nat.le_refl _
    · exact Nat.le_trans (Nat.le_add_right off _) (ih _)

/-- Only bytes between `off` and `stop` decide which entries are visited and what they hold. -/
theorem visitedFrom_of_same (left : Nat) (room : stop ≤ data.size) (room' : stop ≤ data'.size)
    (same : ∀ i, off ≤ i → i < stop → data'.byte i = data.byte i) :
    visitedFrom data' stop off left = visitedFrom data stop off left ∧
      ∀ e ∈ visitedFrom data stop off left, e.blob data' = e.blob data := by
  have alike {o n : Nat} (behind : off ≤ o) (before : o + n ≤ stop) : data.Alike data' o o n :=
    ⟨by omega, by omega, fun i _ => (same (o + i) (by omega) (by omega)).symm⟩
  constructor
  · induction left generalizing off with
    | zero => rfl
    | succ left ih =>
      rw [visitedFrom, visitedFrom]
      by_cases cut : stop < off + headerSize
      · rw [if_pos (.inl cut), if_pos (.inl cut)]
      · have header := alike (o := off) (n := 8) (Nat.le_refl _) (Nat.not_lt.1 cut)
        have length := header.number_eq (show 4 ≤ 8 by decide)
        have type := (header.within (i := 6) (n := 2) (by decide)).number_eq (Nat.le_refl _)
        rw [← length, ← type]
        split
        · rfl
        · have long := le_align8 (data.number off 4)
          rw [ih (fun i _ => same i (by omega)) fun _ => alike (by omega)]
  · intro e there
    obtain ⟨behind, long, before, -, -⟩ := of_mem_visitedFrom there
    have inside := alike (o := e.offset + headerSize) (n := e.length - headerSize) (by omega)
      (by simp only [Entry.stop] at before; omega)
    have ends : e.offset + headerSize + (e.length - headerSize) = e.stop := by
      simp only [Entry.stop]
      omega
    have bytes := inside.extract_eq
    rw [ends] at bytes
    rw [Entry.blob, Entry.blob, bytes]

/-! ## What is read -/

/-- The problem that is met behind the last entry. -/
def endingProblem? (data : Bytes) (stop : Nat) (maxCertificates : Int) (left off : Nat)
    (visited : List Entry) : Option Problem :=
  let off := behind off visited
  if stop < off + headerSize then none
  else if visited.length = left then some (.tooManyCertificates maxCertificates)
  else some (.badCertificateEntry off (data.number off 4))

/-- The blobs of the entries that are visited are the parts of the table, with the problem that is
met behind them. -/
theorem Source.partsFrom_eq (src : Source) (off left : Nat) :
    src.partsFrom off left =
      (((visitedFrom src.data src.stop off left).filter Entry.isSignature).map
          (Entry.blob src.data),
        (endingProblem? src.data src.stop src.maxCertificates left off
          (visitedFrom src.data src.stop off left)).toList) := by
  induction left generalizing off with
  | zero =>
    rw [Source.partsFrom, visitedFrom]
    simp only [endingProblem?, behind, List.length_nil, if_true, List.filter_nil, List.map_nil]
    split <;> rfl
  | succ left ih =>
    rw [Source.partsFrom, visitedFrom]
    by_cases cut : src.stop < off + headerSize
    · simp [endingProblem?, behind, cut]
    · by_cases bad : src.data.number off 4 < headerSize ∨ src.stop < off + src.data.number off 4
      · simp [endingProblem?, behind, cut, bad]
      · have apart : ¬ (src.stop < off + headerSize ∨ src.data.number off 4 < headerSize ∨
            src.stop < off + src.data.number off 4) := not_or.2 ⟨cut, bad⟩
        simp only [if_neg cut, if_neg bad, if_neg apart, ih, endingProblem?, behind,
          List.length_cons, Nat.add_right_cancel_iff, List.filter_cons, Entry.isSignature,
          decide_eq_true_eq]
        split <;> rfl

/-- Only bytes between `off` and `stop` decide what the parts of the table are. -/
theorem Source.partsFrom_of_same (src : Source) (left : Nat) (room : src.stop ≤ src.data.size)
    (room' : src.stop ≤ data'.size)
    (same : ∀ i, off ≤ i → i < src.stop → data'.byte i = src.data.byte i) :
    { src with data := data' }.partsFrom off left = src.partsFrom off left := by
  obtain ⟨entries, blobs⟩ := visitedFrom_of_same left room room' same
  have held : ((visitedFrom src.data src.stop off left).filter Entry.isSignature).map
        (Entry.blob data') =
      ((visitedFrom src.data src.stop off left).filter Entry.isSignature).map
        (Entry.blob src.data) :=
    List.map_congr_left fun e there => blobs e (List.mem_of_mem_filter there)
  have ending : endingProblem? data' src.stop src.maxCertificates left off
        (visitedFrom src.data src.stop off left) =
      endingProblem? src.data src.stop src.maxCertificates left off
        (visitedFrom src.data src.stop off left) := by
    have forth := le_behind src.data src.stop off left
    unfold endingProblem?
    dsimp only
    generalize behind off (visitedFrom src.data src.stop off left) = o at forth ⊢
    by_cases cut : src.stop < o + headerSize
    · rw [if_pos cut, if_pos cut]
    · have room : o + 8 ≤ src.stop := Nat.not_lt.1 cut
      have alike : src.data.Alike data' o o 4 :=
        ⟨by omega, by omega, fun i _ => (same (o + i) (by omega) (by omega)).symm⟩
      rw [alike.number_eq (Nat.le_refl _)]
  rw [partsFrom_eq, partsFrom_eq]
  simp only [entries, held, ending]

/-! ## Entries that are written -/

/-- An entry as it is written. -/
structure StoredEntry where
  revision : UInt16
  type : UInt16
  blob : Octets

namespace StoredEntry

/-- How long the entry is with its header. -/
def size (e : StoredEntry) : Nat := headerSize + e.blob.length

/-- The numbers of the header. -/
def fields (e : StoredEntry) : List Field :=
  [⟨4, e.size⟩, ⟨2, e.revision.toNat⟩, ⟨2, e.type.toNat⟩]

/-- The bytes of the entry. -/
def bytes (e : StoredEntry) : Bytes := fieldBytes e.fields ++ e.blob.toArray

end StoredEntry

/-- The entries stand from `off` on, each at the next multiple of eight bytes behind the one before. -/
def EntriesAt (data : Bytes) (off : Nat) : List StoredEntry → Prop
  | [] => True
  | e :: rest => data.matchesAt e.bytes off ∧ EntriesAt data (off + align8 e.size) rest

/-- The size of a table of entries that are padded to a multiple of eight bytes, the last one only if
`padded` says so. -/
def tableSize (padded : Bool) : List StoredEntry → Nat
  | [] => 0
  | [e] => if padded then align8 e.size else e.size
  | e :: rest => align8 e.size + tableSize padded rest

theorem headerSize_le_tableSize {padded : Bool} {stored : List StoredEntry}
    (nonempty : stored ≠ []) : headerSize ≤ tableSize padded stored := by
  match stored with
  | [] => exact absurd rfl nonempty
  | [e] =>
    have long : headerSize ≤ e.size := Nat.le_add_right _ _
    have more := le_align8 e.size
    rw [tableSize]
    split <;> omega
  | e :: _ :: _ =>
    have long : headerSize ≤ e.size := Nat.le_add_right _ _
    have more := le_align8 e.size
    rw [tableSize]
    · omega
    · simp

/-- The entries are written as the table at `offset`, which ends inside the file and at an address of
32 bits. -/
structure LaidOut (data : Bytes) (offset size : Nat) (stored : List StoredEntry) : Prop where
  nonempty : stored ≠ []
  stands : EntriesAt data offset stored
  total : ∃ padded, size = tableSize padded stored
  inside : offset + size ≤ data.size
  narrow : offset + size ≤ Address.max32

/-- The entry that is visited where a written one stands. -/
def StoredEntry.at (e : StoredEntry) (off : Nat) : Entry := ⟨off, e.size, e.type.toNat⟩

/-- The header and the blob of an entry are read where the entry stands. -/
theorem StoredEntry.read {e : StoredEntry} (stands : data.matchesAt e.bytes off)
    (narrow : e.size ≤ Address.max32) :
    data.number off 4 = e.size ∧ data.number (off + 6) 2 = e.type.toNat ∧
      (e.at off).blob data = e.blob := by
  obtain ⟨header, blob⟩ := Bytes.matchesAt_append_iff.1 stands
  have fit : ∀ f ∈ e.fields, f.Fits := by
    have revision := e.revision.toNat_lt
    have type := e.type.toNat_lt
    simp only [Address.max32] at narrow
    simp only [StoredEntry.fields, List.forall_mem_cons, Field.Fits]
    exact ⟨by omega, revision, type, nofun⟩
  obtain ⟨length, -, type, -⟩ := Bytes.fieldsAt_of_matchesAt header fit
  have eight : (fieldBytes e.fields).size = headerSize := size_fieldBytes _
  refine ⟨length, type, ?_⟩
  obtain ⟨-, letters⟩ := Bytes.matchesAt_iff.1 (eight ▸ blob)
  have ends : off + headerSize + e.blob.toArray.size = (e.at off).stop := by
    simp only [Entry.stop, StoredEntry.at, StoredEntry.size, List.size_toArray]
    omega
  rw [ends] at letters
  rw [Entry.blob]
  exact congrArg Array.toList letters

/-- An entry that is written before the end is visited. -/
theorem visitedFrom_stored {e : StoredEntry} (stands : data.matchesAt e.bytes off)
    (narrow : e.size ≤ Address.max32) (room : off + e.size ≤ stop) :
    visitedFrom data stop off (left + 1) =
      e.at off :: visitedFrom data stop (off + align8 e.size) left := by
  obtain ⟨length, type, -⟩ := StoredEntry.read stands narrow
  have long : headerSize ≤ e.size := Nat.le_add_right _ _
  rw [visitedFrom, length, type, if_neg (by omega)]
  rfl

theorem visitedFrom_of_cut (cut : stop < off + headerSize) : visitedFrom data stop off left = [] := by
  cases left with
  | zero => rfl
  | succ left => rw [visitedFrom, if_pos (.inl cut)]

/-- Entries that are written in the directory are the ones that are visited, and no other would fit
behind them. -/
theorem visitedFrom_laidOut {padded : Bool} {stored : List StoredEntry} (left : Nat)
    (nonempty : stored ≠ [])
    (stands : EntriesAt data off stored) (total : off + tableSize padded stored = stop)
    (narrow : stop ≤ Address.max32) (enough : stored.length ≤ left) :
    ((visitedFrom data stop off left).filter Entry.isSignature).map (Entry.blob data) =
        (stored.filter fun e => e.type.toNat = signatureType).map StoredEntry.blob ∧
      stop < behind off (visitedFrom data stop off left) + headerSize := by
  induction stored generalizing off left with
  | nil => exact absurd rfl nonempty
  | cons e rest ih =>
    obtain ⟨first, others⟩ := stands
    obtain ⟨left, rfl⟩ : ∃ k, left = k + 1 := ⟨left - 1, by rw [List.length_cons] at enough; omega⟩
    have long := le_align8 e.size
    have near : align8 e.size < e.size + headerSize := by
      simp only [align8, headerSize]
      omega
    have room : off + e.size ≤ stop := by
      cases rest with
      | nil =>
        rw [tableSize] at total
        split at total <;> omega
      | cons _ _ =>
        rw [tableSize] at total
        · omega
        · simp
    have blob := (StoredEntry.read first (by omega)).2.2
    rw [visitedFrom_stored first (by omega) room]
    have later : ((visitedFrom data stop (off + align8 e.size) left).filter Entry.isSignature).map
          (Entry.blob data) =
        (rest.filter fun e => e.type.toNat = signatureType).map StoredEntry.blob ∧
        stop < behind (off + align8 e.size) (visitedFrom data stop (off + align8 e.size) left) +
          headerSize := by
      cases rest with
      | nil =>
        -- Behind the last entry there is less than its padding.
        have cut : stop < off + align8 e.size + headerSize := by
          rw [tableSize] at total
          split at total <;> omega
        rw [visitedFrom_of_cut cut]
        exact ⟨rfl, cut⟩
      | cons e' rest =>
        rw [tableSize] at total
        · exact ih left (by simp) others (by omega) (by simpa using enough)
        · simp
    obtain ⟨blobs, ended⟩ := later
    refine ⟨?_, ended⟩
    simp only [List.filter_cons, Entry.isSignature, StoredEntry.at, decide_eq_true_eq] at blobs blob ⊢
    split
    · rw [List.map_cons, List.map_cons, blob, blobs]
    · exact blobs

/-! ## Tables -/

/-- A sum is an address if its parts are not below zero and it takes 32 bits. -/
theorem checkedSum_eq_some_iff {a b sum : Int} :
    Address.checkedSum [some a, some b] = some sum ↔
      0 ≤ a ∧ 0 ≤ b ∧ a + b ≤ Address.max32 ∧ a + b = sum := by
  simp only [Address.checkedSum, List.all_cons, List.all_nil, Option.any_some, Bool.and_true,
    Bool.and_eq_true, decide_eq_true_eq, List.foldl_cons, List.foldl_nil, Option.getD_some, zero_add]
  split
  · split <;> simp <;> omega
  · simp
    omega

variable {offset size maxCertificates maxDepth : Int} {reader : SignatureReader}

/-- The blobs of the table are those of the entries that are visited. -/
theorem parts_blobs : (parts data offset size maxCertificates maxDepth reader).1 =
    ((visited data offset size maxCertificates).filter Entry.isSignature).map (Entry.blob data) := by
  unfold parts visited
  cases Address.checkedSum [some offset, some size] with
  | none => rfl
  | some stop =>
    dsimp only
    split
    next outside =>
      rw [visitedFrom_of_cut (by simp only [headerSize]; omega)]
      rfl
    split
    next backward =>
      have none_left : maxCertificates.toNat = 0 := by omega
      rw [none_left]
      rfl
    · rw [Source.partsFrom_eq]

/-- Too many entries are a problem of the table just when the last one that is allowed was visited and
another header would fit behind it. -/
theorem tooMany_mem_parts (maxDepth : Int) (reader : SignatureReader)
    (forward : 0 ≤ maxCertificates) :
    .tooManyCertificates maxCertificates ∈
        (parts data offset size maxCertificates maxDepth reader).2 ↔
      (0 ≤ offset ∧ 0 ≤ size ∧ offset + size ≤ Address.max32) ∧
        ((visited data offset size maxCertificates).length : Int) = maxCertificates ∧
        (behind offset.toNat (visited data offset size maxCertificates) + headerSize : Int) ≤
          min (offset + size) data.size := by
  unfold parts visited
  cases sum : Address.checkedSum [some offset, some size] with
  | none =>
    have unaddressed : ¬ (0 ≤ offset ∧ 0 ≤ size ∧ offset + size ≤ Address.max32) := by
      rintro ⟨forth, long, narrow⟩
      have some_sum := checkedSum_eq_some_iff.2 ⟨forth, long, narrow, rfl⟩
      rw [sum] at some_sum
      cases some_sum
    simp [unaddressed]
  | some stop =>
    obtain ⟨forth, long, narrow, rfl⟩ := checkedSum_eq_some_iff.1 sum
    dsimp only
    split
    next outside =>
      rw [visitedFrom_of_cut (by simp only [headerSize]; omega)]
      simp only [behind, headerSize, List.mem_singleton, reduceCtorEq, false_iff]
      omega
    rw [if_neg (by omega), Source.partsFrom_eq]
    have problem : .tooManyCertificates maxCertificates ∉
        (if offset + size > data.size then [Problem.securityTruncated offset.toNat] else []) := by
      split <;> simp
    simp only [List.mem_append, problem, false_or, Option.mem_toList, endingProblem?]
    generalize visitedFrom data (min (offset + size).toNat data.size) offset.toNat
      maxCertificates.toNat = es
    have room : (behind offset.toNat es + headerSize : Int) ≤ min (offset + size) data.size ↔
        ¬ min (offset + size).toNat data.size < behind offset.toNat es + headerSize := by omega
    have full : (es.length : Int) = maxCertificates ↔ es.length = maxCertificates.toNat := by omega
    rw [room, full]
    by_cases cut : min (offset + size).toNat data.size < behind offset.toNat es + headerSize
    · simp [cut]
    · by_cases all : es.length = maxCertificates.toNat
      · simp [cut, all, forth, long, narrow]
      · simp [cut, all]

/-- Bytes outside the directory make no difference to the parts of the table. -/
theorem parts_of_same (maxCertificates maxDepth : Int) (reader : SignatureReader)
    (sizes : data'.size = data.size)
    (same : ∀ i : Nat, offset ≤ i → i < offset + size → data'.byte i = data.byte i) :
    visited data' offset size maxCertificates = visited data offset size maxCertificates ∧
      parts data' offset size maxCertificates maxDepth reader =
        parts data offset size maxCertificates maxDepth reader := by
  cases sum : Address.checkedSum [some offset, some size] with
  | none =>
    unfold visited parts
    simp only [sum]
    exact ⟨trivial, trivial⟩
  | some stop =>
    obtain ⟨forth, long, narrow, rfl⟩ := checkedSum_eq_some_iff.1 sum
    have within : ∀ i, offset.toNat ≤ i → i < min (offset + size).toNat data.size →
        data'.byte i = data.byte i := fun i behind before => same i (by omega) (by omega)
    have room : min (offset + size).toNat data.size ≤ data'.size := by omega
    have entries := (visitedFrom_of_same maxCertificates.toNat (by omega) room within).1
    have kept : visited data' offset size maxCertificates = visited data offset size maxCertificates := by
      unfold visited
      rw [sum]
      simp only [sizes, entries]
    have read := Source.partsFrom_of_same
      ⟨data, reader, maxCertificates, maxDepth, min (offset + size).toNat data.size⟩
      maxCertificates.toNat (Nat.min_le_right _ _) room within
    unfold parts
    simp only [sum, sizes, read]
    exact ⟨kept, trivial⟩

/-- What a certificate table comes to, whatever the bytes of the file are. -/
structure Framed (data : Bytes) (offset size maxCertificates maxDepth : Int)
    (reader : SignatureReader) : Prop where
  /-- The blobs of the signature entries are walked, each as a signer at the top, and apart from what
  their walks note there are only problems of the table. -/
  walked : ∃ ps : List Problem, (∀ p ∈ ps, p.ofBlob = false) ∧
    read data offset size maxCertificates maxDepth reader =
      (((visited data offset size maxCertificates).filter Entry.isSignature).foldlM
        (fun w e => reader.walk maxDepth (e.blob data) .signer 0 w) {}).map fun w =>
          (w.found.toList, ps ++ w.problems.toList)
  inside : ∀ e ∈ visited data offset size maxCertificates, offset ≤ e.offset ∧
    headerSize ≤ e.length ∧ (e.stop : Int) ≤ min (offset + size) data.size
  /-- The entries stand apart, in the order in which they are visited. -/
  apart : (visited data offset size maxCertificates).Pairwise fun e e' => e.stop ≤ e'.offset
  few : ((visited data offset size maxCertificates).length : Int) ≤ maxCertificates
  /-- Too many entries are reported just when the directory ends at an address, as many entries as
  are allowed were visited, and another header would fit behind them. -/
  excess : ∀ {records problems},
    read data offset size maxCertificates maxDepth reader = .ok (records, problems) →
      (.tooManyCertificates maxCertificates ∈ problems ↔
        (0 ≤ offset ∧ 0 ≤ size ∧ offset + size ≤ Address.max32) ∧
          ((visited data offset size maxCertificates).length : Int) = maxCertificates ∧
          (behind offset.toNat (visited data offset size maxCertificates) + headerSize : Int) ≤
            min (offset + size) data.size)
  /-- Bytes outside the directory make no difference. -/
  confined : ∀ data' : Bytes, data'.size = data.size →
    (∀ i : Nat, offset ≤ i → i < offset + size → data'.byte i = data.byte i) →
      visited data' offset size maxCertificates = visited data offset size maxCertificates ∧
        read data' offset size maxCertificates maxDepth reader =
          read data offset size maxCertificates maxDepth reader

theorem framed (forward : 0 ≤ maxCertificates) :
    Framed data offset size maxCertificates maxDepth reader where
  walked := by
    refine ⟨(parts data offset size maxCertificates maxDepth reader).2,
      fun p there => Problem.not_ofBlob_of_ofTable (ofTable_of_mem_parts there), ?_⟩
    rw [read_eq, parts_blobs, List.foldlM_map]
  inside e there := by
    unfold visited at there
    cases sum : Address.checkedSum [some offset, some size] with
    | none =>
      rw [sum] at there
      cases there
    | some stop =>
      rw [sum] at there
      obtain ⟨forth, forward, -, rfl⟩ := checkedSum_eq_some_iff.1 sum
      obtain ⟨past, long, before, -, -⟩ := of_mem_visitedFrom there
      exact ⟨by omega, long, by omega⟩
  apart := by
    unfold visited
    split
    · exact .nil
    · exact visitedFrom_pairwise
  few := by
    unfold visited
    split
    · simpa using forward
    next stop _ =>
      have few := length_visitedFrom_le data (min stop.toNat data.size) offset.toNat
        maxCertificates.toNat
      omega
  excess {records problems} found := by
    rw [← tooMany_mem_parts maxDepth reader forward]
    obtain ⟨ofBlobs, blobs, rfl⟩ := problems_of_read found
    refine ⟨fun there => ?_, List.mem_append_left _⟩
    rcases List.mem_append.1 there with ofTable | ofBlob
    · exact ofTable
    · cases blobs _ ofBlob
  confined data' sizes same := by
    obtain ⟨entries, kept⟩ := parts_of_same maxCertificates maxDepth reader sizes same
    exact ⟨entries, by rw [read_eq, read_eq, kept]⟩

/-- The parts of a table that is written entry by entry are its signature blobs, and nothing is noted
of the table. -/
theorem parts_laidOut {offset size : Nat} {stored : List StoredEntry}
    (laidOut : LaidOut data offset size stored) (few : (stored.length : Int) ≤ maxCertificates) :
    parts data offset size maxCertificates maxDepth reader =
      ((stored.filter fun e => e.type.toNat = signatureType).map StoredEntry.blob, []) := by
  obtain ⟨padded, total⟩ := laidOut.total
  have inside := laidOut.inside
  have narrow := laidOut.narrow
  have sum : Address.checkedSum [some (offset : Int), some (size : Int)] =
      some ((offset + size : Nat) : Int) :=
    checkedSum_eq_some_iff.2 ⟨by omega, by omega, by omega, by omega⟩
  have whole : min ((offset + size : Nat) : Int).toNat data.size = offset + size := by omega
  have long : headerSize ≤ size := total ▸ headerSize_le_tableSize laidOut.nonempty
  obtain ⟨blobs, ended⟩ := visitedFrom_laidOut maxCertificates.toNat laidOut.nonempty
    laidOut.stands (by rw [total]) narrow (by omega)
  have silent : endingProblem? data (offset + size) maxCertificates maxCertificates.toNat offset
      (visitedFrom data (offset + size) offset maxCertificates.toNat) = none := if_pos ended
  unfold parts
  rw [sum]
  dsimp only
  rw [if_neg (by simp only [headerSize] at long; omega), if_neg (by omega), if_neg (by omega), whole,
    Source.partsFrom_eq]
  simp only [Int.toNat_natCast, blobs, silent, Option.toList_none, List.append_nil]

/-- A table that is written entry by entry is walked blob by blob, and nothing else is noted. -/
theorem read_laidOut {offset size : Nat} {stored : List StoredEntry}
    (laidOut : LaidOut data offset size stored) (few : (stored.length : Int) ≤ maxCertificates) :
    read data offset size maxCertificates maxDepth reader =
      ((stored.filter fun e => e.type.toNat = signatureType).foldlM
        (fun w e => reader.walk maxDepth e.blob .signer 0 w) {}).map fun w =>
          (w.found.toList, w.problems.toList) := by
  rw [read_eq, parts_laidOut laidOut few, List.foldlM_map]
  rfl

/-- No entry is allowed and a header would fit, but the directory ends at no address of 32 bits: then
it is not entered, and its entries are not too many. -/
theorem unaddressed_directory_is_not_full :
    read (Array.replicate 16 0) 8 0xFFFFFFFF 0 10 = .ok ([], [.securityOutside 8 0xFFFFFFFF]) ∧
      ¬ (Problem.tooManyCertificates 0 ∈ [Problem.securityOutside 8 0xFFFFFFFF] ↔
        ((visited (Array.replicate 16 0) 8 0xFFFFFFFF 0).length : Int) = 0 ∧
          (behind 8 (visited (Array.replicate 16 0) 8 0xFFFFFFFF 0) + headerSize : Int) ≤
            min (8 + 0xFFFFFFFF) (Array.replicate 16 (0 : UInt8)).size) := by
  refine ⟨rfl, fun full => ?_⟩
  have there := full.2 ⟨rfl, by decide⟩
  simp at there

/-- The entries of a certificate table are walked as they are written, and of any other bytes those
entries are that stand apart inside the directory. -/
theorem certificate_entries_are_framed (data : Bytes) (maxCertificates maxDepth : Int)
    (forward : 0 ≤ maxCertificates) (reader : SignatureReader) :
    (∀ offset size stored, LaidOut data offset size stored →
      (stored.length : Int) ≤ maxCertificates →
        read data offset size maxCertificates maxDepth reader =
          ((stored.filter fun e => e.type.toNat = signatureType).foldlM
            (fun w e => reader.walk maxDepth e.blob .signer 0 w) {}).map fun w =>
              (w.found.toList, w.problems.toList)) ∧
      ∀ offset size, Framed data offset size maxCertificates maxDepth reader :=
  ⟨fun _ _ _ laidOut few => read_laidOut laidOut few, fun _ _ => framed forward⟩

/-- A signature entry that is padded, and behind it an entry of another type that is not. -/
def smallEntries : List StoredEntry := [⟨0x200, 2, [0x30, 0x01, 0x05]⟩, ⟨0x200, 1, [0x30]⟩]

/-- Eight bytes and the table of those entries. -/
def smallTable : Bytes :=
  Array.replicate 8 0 ++ (StoredEntry.bytes ⟨0x200, 2, [0x30, 0x01, 0x05]⟩) ++ Array.replicate 5 0 ++
    (StoredEntry.bytes ⟨0x200, 1, [0x30]⟩)

theorem small_table_is_walked :
    (LaidOut smallTable 8 25 smallEntries ∧
      read smallTable 8 25 2 10 =
        (SignatureReader.standard.walk 10 [0x30, 0x01, 0x05] .signer 0 {}).map fun w =>
          (w.found.toList, w.problems.toList)) ∧
      Framed smallTable 8 25 1 10 .standard ∧
      visited smallTable 8 25 1 = [⟨8, 11, 2⟩] := by
  have laidOut : LaidOut smallTable 8 25 smallEntries := by
    constructor
    · decide
    · refine ⟨?_, ?_, trivial⟩ <;> decide +kernel
    · exact ⟨false, rfl⟩
    · decide +kernel
    · decide
  have walked := (certificate_entries_are_framed smallTable 2 10 (by decide) .standard).1 8 25
    smallEntries laidOut (by decide)
  refine ⟨⟨laidOut, walked.trans ?_⟩,
    (certificate_entries_are_framed smallTable 1 10 (by decide) .standard).2 8 25, ?_⟩
  · simp [smallEntries, signatureType]
  · decide +kernel

end CertificateTable

end PeFacts
