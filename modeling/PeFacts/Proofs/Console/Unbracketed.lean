import Mathlib.Data.Nat.Digits.Defs
import PeFacts.Console
import PeFacts.Image.Session
import PeFacts.Proofs.Console.Markup

/-!
# Texts without brackets

Numbers, digests and the words of the format are printed as they are. None of them has an opening
bracket, so there is no tag in them.
-/

namespace PeFacts

open Markup (Unbracketed)

namespace Markup

instance (text : String) : Decidable (Unbracketed text) := inferInstanceAs (Decidable (_ ∉ _))

theorem unbracketed_append {s t : String} : Unbracketed (s ++ t) ↔ Unbracketed s ∧ Unbracketed t := by
  simp only [Unbracketed, String.toList_append, List.mem_append, not_or]

theorem unbracketed_push {s : String} {c : Char} : Unbracketed (s.push c) ↔ Unbracketed s ∧ c ≠ '[' := by
  simp only [Unbracketed, String.toList_push, List.mem_append, List.mem_singleton, not_or, ne_comm]

theorem unbracketed_join {texts : List String} (each : ∀ s ∈ texts, Unbracketed s) :
    Unbracketed (String.join texts) := by
  rw [Unbracketed, String.toList_join, List.mem_flatMap]
  rintro ⟨s, there, bracket⟩
  exact each s there bracket

theorem unbracketed_intercalate {separator : String} (apart : Unbracketed separator)
    {texts : List String} (each : ∀ s ∈ texts, Unbracketed s) :
    Unbracketed (separator.intercalate texts) := by
  match texts with
  | [] => rw [String.intercalate_nil]; decide
  | [s] => simpa using each
  | s :: t :: texts =>
    obtain ⟨first, rest⟩ := List.forall_mem_cons.1 each
    rw [String.intercalate_cons_cons, unbracketed_append, unbracketed_append]
    exact ⟨⟨first, apart⟩, unbracketed_intercalate apart rest⟩

end Markup

open Markup

/-! ## Numbers -/

theorem not_mem_toDigits {base : Nat} (h : 1 < base) (n : Nat) : '[' ∉ Nat.toDigits base n := by
  induction n using Nat.strongRecOn with
  | ind n ih =>
    have digit (k : Nat) : '[' ∉ [k.digitChar] := by
      rw [List.mem_singleton]
      exact (Nat.digitChar_ne '[' (by decide)).symm
    rw [Nat.toDigits_eq_if h]
    split
    · exact digit n
    next large =>
      rw [List.mem_append, not_or]
      exact ⟨ih _ (Nat.div_lt_self (by omega) h), digit (n % base)⟩

theorem unbracketed_nat (n : Nat) : Unbracketed (toString n) := by
  change '[' ∉ n.repr.toList
  rw [Nat.repr_eq_ofList_toDigits, String.toList_ofList]
  exact not_mem_toDigits (by decide) n

theorem unbracketed_int (n : Int) : Unbracketed (toString n) := by
  change Unbracketed n.repr
  rw [Int.repr_eq_if]
  split
  · exact unbracketed_nat _
  · exact unbracketed_append.2 ⟨by decide, unbracketed_nat _⟩

theorem unbracketed_paddedHex (width n : Nat) : Unbracketed (Text.paddedHex width n) := by
  rw [Unbracketed, Text.paddedHex, String.toList_ofList, List.mem_append, not_or]
  refine ⟨fun there => ?_, not_mem_toDigits (by decide) n⟩
  exact absurd (List.eq_of_mem_replicate there) (by decide)

theorem unbracketed_hex (data : Bytes) : Unbracketed data.hex := by
  have digit (n : Nat) : Bytes.hexDigit n ≠ '[' := by
    rcases Nat.lt_or_ge n 16 with small | large
    · exact (by decide : ∀ n < 16, Bytes.hexDigit n ≠ '[') n small
    · have outside : "0123456789abcdef".toList[n]? = none := List.getElem?_eq_none large
      rw [Bytes.hexDigit, List.getD_eq_getElem?_getD, outside]
      decide
  rw [Bytes.hex, ← Array.foldl_toList]
  refine List.foldlRecOn (motive := Unbracketed) _ _ (by decide) fun text plain b _ => ?_
  exact unbracketed_push.2 ⟨unbracketed_push.2 ⟨plain, digit _⟩, digit _⟩

/-! ## Values -/

theorem unbracketed_hexText_int (n : Int) : Unbracketed (Console.hexText (.int n)) := by
  refine unbracketed_append.2 ⟨?_, unbracketed_paddedHex 1 _⟩
  split <;> decide

theorem unbracketed_hexText_option (n? : Option Nat) :
    Unbracketed (Console.hexText (.option .nat n?)) := by
  cases n? with
  | none => decide +kernel
  | some n => exact unbracketed_hexText_int n

theorem unbracketed_display_option {text? : Option String}
    (plain : ∀ text, text? = some text → Unbracketed text) :
    Unbracketed (Value.option Value.text text?).display := by
  cases text? with
  | none => decide +kernel
  | some text => exact plain text rfl

/-! ## Words of the format -/

theorem unbracketed_nameOf? {family : NumberFamily} (plain : ∀ m ∈ family.members, Unbracketed m.1)
    {n : Nat} {name : String} (found : family.nameOf? n = some name) : Unbracketed name := by
  obtain ⟨m, there, rfl⟩ := Option.map_eq_some_iff.1 found
  exact plain m (List.mem_reverse.1 (List.mem_of_find?_eq_some there))

theorem unbracketed_machineName? {n : Nat} {name : String} (found : machineName? n = some name) :
    Unbracketed name :=
  unbracketed_nameOf? (by decide +kernel) found

theorem unbracketed_subsystemName? {n : Nat} {name : String} (found : subsystemName? n = some name) :
    Unbracketed name :=
  unbracketed_nameOf? (by decide +kernel) found

theorem unbracketed_layoutName (layout : HeaderLayout) : Unbracketed layout.name := by
  cases layout <;> decide

theorem unbracketed_modeName (mode : ScanMode) : Unbracketed mode.name := by
  cases mode <;> decide

theorem unbracketed_versionText (v : Version) : Unbracketed v.text :=
  unbracketed_append.2 ⟨unbracketed_append.2 ⟨unbracketed_nat _, by decide⟩, unbracketed_nat _⟩

theorem unbracketed_serialText (serial : Int) : Unbracketed (SignatureRecord.serialText serial) := by
  refine unbracketed_intercalate (by decide) ?_
  simp only [List.forall_mem_map]
  exact fun b _ => unbracketed_hex _

namespace Digest

theorem unbracketed_words (bigEndian : Bool) (words : List UInt32) :
    Unbracketed (String.join (words.map (wordHex bigEndian))) := by
  refine unbracketed_join ?_
  simp only [List.forall_mem_map]
  exact fun w _ => unbracketed_hex _

theorem unbracketed_md5 (message : Bytes) : Unbracketed (md5 message) :=
  unbracketed_words false _

theorem unbracketed_sha256 (message : Bytes) : Unbracketed (sha256 message) :=
  unbracketed_words true _

end Digest

end PeFacts
