import PeFacts.Proofs.Stored.Field
import PeFacts.Signature.Walk

/-!
# The element at the front of a blob

How an element of definite length is written: an identifier, the length of its content, and the
content. A length stands in one octet, or in up to four octets that one octet announces, and these may
begin with zeros. A blob begins with such an element or is `Unmeasured` (`unmeasured_or_element`); it
has the length of that element (`derLength?_append`) or none (`derLength?_of_unmeasured`). Main result:
`front_elements_are_measured`.
-/

namespace PeFacts

open Asn1

/-! ## Numbers, the high octet first -/

/-- A number in `width` octets, the high octet first. -/
def bigEndianDigits (width n : Nat) : Octets := (littleEndian width n).reverse

@[simp] theorem length_bigEndianDigits (width n : Nat) : (bigEndianDigits width n).length = width := by
  rw [bigEndianDigits, List.length_reverse, length_littleEndian]

theorem bigEndianDigits_succ (width n : Nat) :
    bigEndianDigits (width + 1) n = bigEndianDigits width (n / 256) ++ [n.toUInt8] := by
  rw [bigEndianDigits, littleEndian, List.reverse_cons, bigEndianDigits]

theorem bigEndian_concat (digits : Octets) (b : UInt8) :
    bigEndian (digits ++ [b]) = bigEndian digits * 256 + b.toNat := by
  rw [bigEndian, List.foldl_append, List.foldl_cons, List.foldl_nil, bigEndian]

theorem bigEndian_bigEndianDigits {width n : Nat} (fits : n < 256 ^ width) :
    bigEndian (bigEndianDigits width n) = n := by
  induction width generalizing n with
  | zero =>
    rw [Nat.pow_zero, Nat.lt_one_iff] at fits
    rw [fits]
    rfl
  | succ width ih =>
    have high : n / 256 < 256 ^ width := Nat.div_lt_of_lt_mul (by rwa [← Nat.pow_succ'])
    have low : n.toUInt8.toNat = n % 256 := UInt8.toNat_ofNat'
    rw [bigEndianDigits_succ, bigEndian_concat, ih high, low]
    exact Nat.div_add_mod' n 256

theorem bigEndian_lt (digits : Octets) : bigEndian digits < 256 ^ digits.length := by
  induction digits using List.reverseRecOn with
  | nil => exact Nat.one_pos
  | append_singleton digits b ih =>
    have small := b.toNat_lt
    rw [bigEndian_concat, List.length_append, List.length_singleton, Nat.pow_succ]
    omega

/-- Octets are the digits of the number that they write, leading zeros included. -/
theorem bigEndianDigits_bigEndian (digits : Octets) :
    bigEndianDigits digits.length (bigEndian digits) = digits := by
  induction digits using List.reverseRecOn with
  | nil => rfl
  | append_singleton digits b ih =>
    have small := b.toNat_lt
    have high : (bigEndian digits * 256 + b.toNat) / 256 = bigEndian digits := by omega
    have low : (bigEndian digits * 256 + b.toNat).toUInt8 = b := by
      apply UInt8.toNat_inj.1
      rw [Nat.toUInt8_eq, UInt8.toNat_ofNat']
      omega
    rw [List.length_append, List.length_singleton, bigEndianDigits_succ, bigEndian_concat, high, low,
      ih]

/-! ## Elements -/

/-- How the length of a content is written. -/
inductive LengthForm
  /-- In one octet. -/
  | short
  /-- In `width` octets, behind one that announces them. -/
  | long (width : Nat)
  deriving Repr, DecidableEq

namespace LengthForm

/-- The length `n` can be written in this form. -/
def Admits : LengthForm → (n : Nat) → Prop
  | short, n => n < 0x80
  | long width, n => 1 ≤ width ∧ width ≤ 4 ∧ n < 256 ^ width

/-- The octets of the length `n`. -/
def octets : LengthForm → (n : Nat) → Octets
  | short, n => [n.toUInt8]
  | long width, n => (0x80 + width).toUInt8 :: bigEndianDigits width n

/-- The lengths that can be written are those below `2 ^ 32`. -/
theorem exists_admits_iff {n : Nat} : (∃ form : LengthForm, form.Admits n) ↔ n < 2 ^ 32 := by
  constructor
  · rintro ⟨form, admits⟩
    cases form with
    | short => exact Nat.lt_trans admits (by decide)
    | long width =>
      obtain ⟨-, narrow, fits⟩ := admits
      exact Nat.lt_of_lt_of_le fits (Nat.pow_le_pow_right (by decide) narrow)
  · intro small
    exact ⟨.long 4, by decide, by decide, small⟩

end LengthForm

/-- An element that says how long its content is. -/
structure DefiniteElement where
  tag : UInt8
  form : LengthForm
  content : Octets
  admits : form.Admits content.length

/-- An element as it is written. -/
def DefiniteElement.octets (e : DefiniteElement) : Octets :=
  e.tag :: (e.form.octets e.content.length ++ e.content)

/-- Why there is no element at the front of a blob. -/
inductive Unmeasured : Octets → Prop
  /-- There is no length octet. -/
  | short {blob : Octets} : blob.length < 2 → Unmeasured blob
  /-- The length is left open. -/
  | endless (tag : UInt8) (tail : Octets) : Unmeasured (tag :: 0x80 :: tail)
  /-- More than four octets are announced for the length. -/
  | wide {tag first : UInt8} {tail : Octets} : 0x84 < first → Unmeasured (tag :: first :: tail)
  /-- The octets announced for the length are not all there. -/
  | headerCut {tag first : UInt8} {tail : Octets} :
      0x80 < first → tail.length < first.toNat - 0x80 → Unmeasured (tag :: first :: tail)
  /-- The content is not all there. -/
  | contentCut {tag : UInt8} {form : LengthForm} {n : Nat} {rest : Octets} :
      form.Admits n → rest.length < n → Unmeasured (tag :: (form.octets n ++ rest))

theorem exists_eq_append {octets : Octets} {n : Nat} (there : n ≤ octets.length) :
    ∃ front behind, octets = front ++ behind ∧ front.length = n :=
  ⟨octets.take n, octets.drop n, (List.take_append_drop n octets).symm, List.length_take_of_le there⟩

/-- A length octet and the octets that it announces are a length in one of its forms. -/
theorem exists_octets {first : UInt8} {tail : Octets} (closed : first ≠ 0x80) (narrow : first ≤ 0x84)
    (there : first.toNat - 0x80 ≤ tail.length) :
    ∃ form : LengthForm, ∃ n rest, form.Admits n ∧ first :: tail = form.octets n ++ rest := by
  have narrow : first.toNat ≤ 0x84 := UInt8.le_iff_toNat_le.1 narrow
  have closed : first.toNat ≠ 0x80 := fun h => closed (UInt8.toNat_inj.1 h)
  by_cases short : first.toNat < 0x80
  · refine ⟨.short, first.toNat, tail, short, ?_⟩
    rw [LengthForm.octets, Nat.toUInt8_eq, UInt8.ofNat_toNat, List.singleton_append]
  · -- the octet announces `width` digits, which may write any number below `256 ^ width`
    obtain ⟨width, announces⟩ := Nat.exists_eq_add_of_le (Nat.le_of_not_lt short)
    rw [announces, Nat.add_sub_cancel_left] at there
    obtain ⟨digits, rest, rfl, rfl⟩ := exists_eq_append there
    refine ⟨.long digits.length, bigEndian digits, rest,
      ⟨by omega, by omega, bigEndian_lt digits⟩, ?_⟩
    rw [LengthForm.octets, bigEndianDigits_bigEndian, ← announces, Nat.toUInt8_eq, UInt8.ofNat_toNat,
      List.cons_append]

/-- A blob that does not begin with an element is unmeasured. -/
theorem unmeasured_or_element (blob : Octets) :
    Unmeasured blob ∨ ∃ e : DefiniteElement, ∃ rest, blob = e.octets ++ rest := by
  match blob with
  | [] => exact .inl (.short Nat.zero_lt_two)
  | [_] => exact .inl (.short Nat.one_lt_two)
  | tag :: first :: tail =>
    by_cases closed : first = 0x80
    · rw [closed]
      exact .inl (.endless tag tail)
    by_cases narrow : 0x84 < first
    · exact .inl (.wide narrow)
    by_cases there : tail.length < first.toNat - 0x80
    · have long : 0x80 < first := UInt8.lt_iff_toNat_lt.2 (show 0x80 < first.toNat by omega)
      exact .inl (.headerCut long there)
    obtain ⟨form, n, rest, admits, written⟩ :=
      exists_octets closed (UInt8.not_lt.1 narrow) (Nat.le_of_not_lt there)
    rw [written]
    by_cases inside : rest.length < n
    · exact .inl (.contentCut admits inside)
    obtain ⟨content, behind, rfl, rfl⟩ := exists_eq_append (Nat.le_of_not_lt inside)
    refine .inr ⟨⟨tag, form, content, admits⟩, behind, ?_⟩
    rw [DefiniteElement.octets, List.cons_append, List.append_assoc]

/-! ## Measuring -/

/-- How long the element is, header included, that has these octets behind its tag. -/
def announced? (first : UInt8) (tail : Octets) : Option Nat :=
  if first < 0x80 then some (2 + first.toNat)
  else
    let n := first.toNat % 0x80
    if n = 0 ∨ 4 < n ∨ tail.length < n then none else some (2 + n + bigEndian (tail.take n))

theorem derLength?_cons (tag first : UInt8) (tail : Octets) :
    derLength? (tag :: first :: tail) = (announced? first tail).filter (· ≤ tail.length + 2) := rfl

/-- A length in one of its forms announces what it says. -/
theorem announced?_of_octets {form : LengthForm} {n : Nat} {first : UInt8} {digits : Octets}
    (admits : form.Admits n) (written : form.octets n = first :: digits) (rest : Octets) :
    announced? first (digits ++ rest) = some (digits.length + n + 2) := by
  cases form with
  | short =>
    have small : n < 0x80 := admits
    cases written
    have value : n.toUInt8.toNat = n :=
      UInt8.toNat_ofNat_of_lt' (Nat.lt_trans small (by decide))
    rw [announced?, if_pos (UInt8.lt_iff_toNat_lt.2 (by rwa [value])), value, List.length_nil]
    congr 1
    omega
  | long width =>
    obtain ⟨some_width, narrow, fits⟩ := admits
    cases written
    have value : (0x80 + width).toUInt8.toNat = 0x80 + width :=
      UInt8.toNat_ofNat_of_lt' (show 0x80 + width < 256 by omega)
    have long : ¬ (0x80 + width).toUInt8 < 0x80 := by
      rw [UInt8.lt_iff_toNat_lt, value]
      exact Nat.not_lt.2 (Nat.le_add_right 0x80 width)
    have count : (0x80 + width) % 0x80 = width := by omega
    have octets : (bigEndianDigits width n ++ rest).take width = bigEndianDigits width n :=
      List.take_left' (length_bigEndianDigits width n)
    have there : ¬ (width = 0 ∨ 4 < width ∨ (bigEndianDigits width n ++ rest).length < width) := by
      rw [List.length_append, length_bigEndianDigits]
      omega
    rw [announced?, if_neg long, value]
    dsimp only
    rw [count, if_neg there, octets, bigEndian_bigEndianDigits fits, length_bigEndianDigits]
    congr 1
    omega

theorem announced?_eq_none {first : UInt8} {tail : Octets} (long : 0x80 ≤ first)
    (refused : first = 0x80 ∨ 0x84 < first ∨ tail.length < first.toNat - 0x80) :
    announced? first tail = none := by
  have below := first.toNat_lt
  have long' : 0x80 ≤ first.toNat := UInt8.le_iff_toNat_le.1 long
  have count : first.toNat % 0x80 = first.toNat - 0x80 := by omega
  rw [announced?, if_neg (UInt8.not_lt.2 long)]
  dsimp only
  rw [count, if_pos]
  obtain rfl | wide | cut := refused
  · exact .inl rfl
  · have wide : 0x84 < first.toNat := UInt8.lt_iff_toNat_lt.1 wide
    exact .inr (.inl (by omega))
  · exact .inr (.inr cut)

/-- A length in one of its forms is that of an element, if the content is all there. -/
theorem derLength?_header {form : LengthForm} {n : Nat} (admits : form.Admits n) (tag : UInt8)
    (rest : Octets) : derLength? (tag :: (form.octets n ++ rest)) =
      if n ≤ rest.length then some ((form.octets n).length + n + 1) else none := by
  obtain ⟨first, digits, written⟩ : ∃ first digits, form.octets n = first :: digits := by
    cases form <;> exact ⟨_, _, rfl⟩
  have fits : digits.length + n + 2 ≤ (digits ++ rest).length + 2 ↔ n ≤ rest.length := by
    rw [List.length_append]
    omega
  rw [written, List.cons_append, derLength?_cons, announced?_of_octets admits written,
    Option.filter_some, List.length_cons]
  simp only [decide_eq_true_eq, fits]
  congr 2
  omega

/-- An element has its length, whatever stands behind it. -/
theorem derLength?_append (e : DefiniteElement) (rest : Octets) :
    derLength? (e.octets ++ rest) = some e.octets.length := by
  have inside : e.content.length ≤ (e.content ++ rest).length := by
    rw [List.length_append]
    omega
  rw [DefiniteElement.octets, List.cons_append, List.append_assoc, derLength?_header e.admits,
    if_pos inside, List.length_cons, List.length_append]

theorem derLength?_of_unmeasured {blob : Octets} (unmeasured : Unmeasured blob) :
    derLength? blob = none := by
  cases unmeasured with
  | short short =>
    match blob with
    | [] => rfl
    | [_] => rfl
    | _ :: _ :: _ => exact absurd short (by simp)
  | endless tag tail =>
    rw [derLength?_cons, announced?_eq_none (by decide) (.inl rfl), Option.filter_none]
  | wide wide =>
    have long := UInt8.le_trans (show 0x80 ≤ 0x84 by decide) (UInt8.le_of_lt wide)
    rw [derLength?_cons, announced?_eq_none long (.inr (.inl wide)), Option.filter_none]
  | headerCut long cut =>
    rw [derLength?_cons, announced?_eq_none (UInt8.le_of_lt long) (.inr (.inr cut)),
      Option.filter_none]
  | contentCut admits cut => rw [derLength?_header admits, if_neg (Nat.not_le.2 cut)]

/-- A blob has a length if an element stands at its front, and then it has that of the element. -/
theorem derLength?_eq_some_iff {blob : Octets} {size : Nat} : derLength? blob = some size ↔
    ∃ e : DefiniteElement, ∃ rest, blob = e.octets ++ rest ∧ size = e.octets.length := by
  constructor
  · intro front
    obtain unmeasured | ⟨e, rest, rfl⟩ := unmeasured_or_element blob
    · cases front.symm.trans (derLength?_of_unmeasured unmeasured)
    · exact ⟨e, rest, rfl, Option.some.inj (front.symm.trans (derLength?_append e rest))⟩
  · rintro ⟨e, rest, rfl, rfl⟩
    exact derLength?_append e rest

theorem derLength?_eq_none_iff {blob : Octets} : derLength? blob = none ↔ Unmeasured blob := by
  refine ⟨fun none => ?_, derLength?_of_unmeasured⟩
  obtain unmeasured | ⟨e, rest, rfl⟩ := unmeasured_or_element blob
  · exact unmeasured
  · cases none.symm.trans (derLength?_append e rest)

theorem bounds_of_derLength? {blob : Octets} {size : Nat} (front : derLength? blob = some size) :
    2 ≤ size ∧ size ≤ blob.length := by
  obtain ⟨e, rest, rfl, rfl⟩ := derLength?_eq_some_iff.1 front
  have octet : 1 ≤ (e.form.octets e.content.length).length := by
    cases e.form <;> exact Nat.succ_le_succ (Nat.zero_le _)
  constructor
  · rw [DefiniteElement.octets, List.length_cons, List.length_append]
    omega
  · rw [List.length_append]
    omega

/-- What stands behind the element at the front does not matter to its length. -/
theorem derLength?_take_append {blob : Octets} {size : Nat} (front : derLength? blob = some size)
    (rest : Octets) : derLength? (blob.take size ++ rest) = some size := by
  obtain ⟨e, behind, rfl, rfl⟩ := derLength?_eq_some_iff.1 front
  rw [List.take_left, derLength?_append]

/-- A function tells how long the element is that stands at the front of a blob. -/
structure MeasuresFront (length? : Octets → Option Nat) : Prop where
  /-- An element has its length, in whichever form that is written and whatever stands behind it. -/
  element : ∀ (e : DefiniteElement) rest, length? (e.octets ++ rest) = some e.octets.length
  bounds : ∀ blob size, length? blob = some size → 2 ≤ size ∧ size ≤ blob.length
  /-- A blob that is trimmed to its length keeps it, whatever then stands behind it. -/
  trimmed : ∀ blob size rest, length? blob = some size →
    length? (blob.take size ++ rest) = some size
  none_iff : ∀ blob, length? blob = none ↔ Unmeasured blob

theorem front_elements_are_measured : MeasuresFront derLength? where
  element := derLength?_append
  bounds _ _ := bounds_of_derLength?
  trimmed _ _ rest front := derLength?_take_append front rest
  none_iff _ := derLength?_eq_none_iff

-- the length has a leading zero, and an octet stands behind the element
example : derLength? [0x30, 0x82, 0x00, 0x03, 0x02, 0x01, 0x01, 0x00] = some 7 := by decide

end PeFacts
