import PeFacts.Text.Decoding
import PeFacts.Text.Lower

/-!
# Stored names in lower case

A name that an image stores is ASCII text, in which replacement characters stand for bytes that are
none (`IsStored`). In such a name every character has a lower case of its own, whatever stands around
it (`lowerText_of_stored`), so names that differ in the case of ASCII letters only (`SameLetters`) are
the same in lower case.
-/

namespace PeFacts

/-- The character is ASCII or stands for a byte that is not. -/
def IsStoredChar (c : Char) : Prop := c.toNat < 128 ∨ c = replacement

/-- The text is one that ASCII decoding can give. -/
def IsStored (s : String) : Prop := ∀ c ∈ s.toList, IsStoredChar c

/-- The texts differ in the case of ASCII letters at most. -/
def SameLetters (s s' : String) : Prop := s.toList.map Char.toLower = s'.toList.map Char.toLower

instance (c : Char) : Decidable (IsStoredChar c) :=
  inferInstanceAs (Decidable (c.toNat < 128 ∨ c = replacement))

-- The instance is named, since another one goes through all characters there are.
instance (s : String) : Decidable (IsStored s) := List.decidableBAll IsStoredChar s.toList

instance (s s' : String) : Decidable (SameLetters s s') :=
  inferInstanceAs (Decidable (s.toList.map Char.toLower = s'.toList.map Char.toLower))

/-- Whatever the bytes are, they decode to a text of this kind. -/
theorem isStored_asciiText (bytes : List UInt8) : IsStored (asciiText bytes) := by
  intro c there
  rw [asciiText, String.toList_ofList] at there
  obtain ⟨b, -, rfl⟩ := List.mem_map.1 there
  split
  next ascii =>
    left
    rw [Char.ofNat, dif_pos (Or.inl (by omega))]
    exact ascii
  next => exact .inr rfl

theorem Bytes.isStored_of_cString? {data : Bytes} {off : Nat} {maxLength : Int} {text : String}
    (found : data.cString? off maxLength = some text) : IsStored text := by
  unfold cString? at found
  split at found
  · cases found
  · obtain ⟨nul, -, rfl⟩ := Option.map_eq_some_iff.1 found
    exact isStored_asciiText _

theorem isStoredChar_toLower {c : Char} : IsStoredChar c.toLower ↔ IsStoredChar c := by
  unfold Char.toLower
  split
  next upper =>
    have ascii : c.toNat < 128 := Nat.lt_of_le_of_lt upper.2 (by decide)
    have raised : (c.val + ('a'.val - 'A'.val)).toNat < 128 := by
      have le : c.val.toNat ≤ 90 := upper.2
      rw [UInt32.toNat_add]
      change (c.val.toNat + 32) % 2 ^ 32 < 128
      omega
    exact iff_of_true (.inl raised) (.inl ascii)
  next => rfl

/-- Changing the case of letters keeps a text of this kind one. -/
theorem SameLetters.isStored_iff {s s' : String} (same : SameLetters s s') :
    IsStored s ↔ IsStored s' := by
  have lowered (s : String) : IsStored s ↔ ∀ c ∈ s.toList.map Char.toLower, IsStoredChar c := by
    simp only [List.forall_mem_map, isStoredChar_toLower]
    rfl
  rw [lowered, lowered, same]

namespace Text

/-- No character of this kind has a lower case that depends on others or takes two characters. -/
theorem lower_of_isStoredChar {c : Char} (h : IsStoredChar c) :
    c ≠ 'Σ' ∧ c ≠ 'İ' ∧ lowerChar c = c.toLower := by
  rcases h with ascii | rfl
  · refine ⟨?_, ?_, if_pos ascii⟩
    · rintro rfl
      exact absurd ascii (by decide)
    · rintro rfl
      exact absurd ascii (by decide)
  · decide +kernel

theorem lowerFrom_of_stored {cs : List Char} (h : ∀ c ∈ cs, IsStoredChar c) (before : List Char) :
    lowerFrom before cs = cs.map Char.toLower := by
  induction cs generalizing before with
  | nil => rfl
  | cons c cs ih =>
    obtain ⟨sigma, dotted, single⟩ := lower_of_isStoredChar (h c List.mem_cons_self)
    rw [lowerFrom, if_neg sigma, if_neg dotted, single,
      ih (fun d there => h d (List.mem_cons_of_mem c there))]
    rfl

end Text

theorem lowerText_of_stored {s : String} (h : IsStored s) :
    lowerText s = String.ofList (s.toList.map Char.toLower) := by
  rw [lowerText, Text.lowerFrom_of_stored h]

/-- Names that differ in the case of letters are the same in lower case. -/
theorem SameLetters.lowerText_eq {s s' : String} (same : SameLetters s s') (h : IsStored s) :
    lowerText s = lowerText s' := by
  rw [lowerText_of_stored h, lowerText_of_stored (same.isStored_iff.1 h), same]

end PeFacts
