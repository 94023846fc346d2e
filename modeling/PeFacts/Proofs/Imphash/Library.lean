import Mathlib.Data.List.TakeWhile
import Mathlib.Logic.Relation
import PeFacts.Imphash
import PeFacts.Proofs.Lower

/-!
# Names of libraries

A library keeps its name in the import hash when the case of letters or a usual extension changes:
`Alias` has one rule for each such change, and `libraryName_eq_of_aliases` says that stored names which
are joined by any of them are hashed as one.
-/

namespace PeFacts.Imphash

/-- The extension is a usual one, in any case. -/
def IsUsual (extension : String) : Prop := ∃ usual ∈ droppedExtensions, SameLetters extension usual

/-- The name has no usual extension. -/
def IsBare (name : String) : Prop :=
  ∀ stem extension, IsUsual extension → name ≠ stem ++ "." ++ extension

/-- The names of one DLL: in another case, with another usual extension, or without it. -/
inductive Alias : String → String → Prop
  | letters {name name' : String} (same : SameLetters name name') : Alias name name'
  | extension {stem extension extension' : String} (usual : IsUsual extension)
      (usual' : IsUsual extension') :
      Alias (stem ++ "." ++ extension) (stem ++ "." ++ extension')
  | dropped {stem extension : String} (usual : IsUsual extension) (bare : IsBare stem) :
      Alias (stem ++ "." ++ extension) stem

theorem isBare_of_no_dot {name : String} (none : '.' ∉ name.toList) : IsBare name := by
  rintro stem extension - rfl
  simp at none

/-! ## Splitting -/

theorem splitExtension?_eq_some_iff {name stem extension : List Char} :
    splitExtension? name = some (stem, extension) ↔
      name = stem ++ '.' :: extension ∧ '.' ∉ extension := by
  unfold splitExtension?
  constructor
  · intro split
    have whole := List.takeWhile_append_dropWhile (p := (· != '.')) (l := name.reverse)
    have head := List.head?_dropWhile_not (· != '.') name.reverse
    have none : '.' ∉ name.reverse.takeWhile (· != '.') := fun there => by
      simpa using List.mem_takeWhile_imp there
    generalize name.reverse.takeWhile (· != '.') = last at split whole none
    cases behind : name.reverse.dropWhile (· != '.') with
    | nil => simp [behind] at split
    | cons c before =>
      rw [behind] at split whole head
      obtain rfl : c = '.' := by simpa using head
      obtain ⟨rfl, rfl⟩ : before.reverse = stem ∧ last.reverse = extension := by simpa using split
      exact ⟨by simpa using (congrArg List.reverse whole).symm, by simpa using none⟩
  · rintro ⟨rfl, none⟩
    have last : (stem ++ '.' :: extension).reverse = extension.reverse ++ '.' :: stem.reverse := by
      simp
    have all : ∀ c ∈ extension.reverse, (c != '.') = true := by
      intro c there
      rw [bne_iff_ne]
      rintro rfl
      exact none (List.mem_reverse.1 there)
    rw [last, List.takeWhile_append_of_pos all, List.dropWhile_append_of_pos all]
    simp

theorem dot_of_toLower {c : Char} (h : c.toLower = '.') : c = '.' := by
  unfold Char.toLower at h
  split at h
  next upper =>
    have raised : (c.val + ('a'.val - 'A'.val)).toNat = '.'.val.toNat := congrArg (·.val.toNat) h
    have le : c.val.toNat ≤ 90 := upper.2
    have ge : 65 ≤ c.val.toNat := upper.1
    rw [UInt32.toNat_add] at raised
    change (c.val.toNat + 32) % 2 ^ 32 = 46 at raised
    omega
  next => exact h

/-! ## Names in lower case -/

theorem lower_of_dropped {usual : String} (h : usual ∈ droppedExtensions) :
    '.' ∉ usual.toList ∧ usual.toList.map Char.toLower = usual.toList := by
  have each : ∀ usual ∈ droppedExtensions,
      '.' ∉ usual.toList ∧ usual.toList.map Char.toLower = usual.toList := by decide +kernel
  exact each usual h

/-- A usual extension does not count. -/
theorem libraryName_of_usual {stem extension : String} (h : IsStored (stem ++ "." ++ extension))
    (usual : IsUsual extension) :
    libraryName (stem ++ "." ++ extension) = String.ofList (stem.toList.map Char.toLower) := by
  obtain ⟨e, dropped, same⟩ := usual
  obtain ⟨without, lower⟩ := lower_of_dropped dropped
  have whole : (lowerText (stem ++ "." ++ extension)).toList =
      stem.toList.map Char.toLower ++ '.' :: e.toList := by
    rw [lowerText_of_stored h, String.toList_ofList, ← lower, ← same]
    simp
  have split := splitExtension?_eq_some_iff.2 ⟨whole, without⟩
  rw [libraryName]
  simp only [split, String.ofList_toList, List.contains_iff_mem.2 dropped, if_true]

/-- Any other name counts as a whole. -/
theorem libraryName_of_bare {name : String} (h : IsStored name) (bare : IsBare name) :
    libraryName name = String.ofList (name.toList.map Char.toLower) := by
  rw [libraryName, ← lowerText_of_stored h]
  split
  next stem extension split =>
    obtain ⟨whole, -⟩ := splitExtension?_eq_some_iff.1 split
    rw [lowerText_of_stored h, String.toList_ofList] at whole
    obtain ⟨before, behind, parts, rfl, lower⟩ := List.map_eq_append_iff.1 whole
    obtain ⟨c, after, rfl, dot, rfl⟩ := List.map_eq_cons_iff.1 lower
    obtain rfl := dot_of_toLower dot
    rw [if_neg]
    intro dropped
    have usual : IsUsual (String.ofList after) := by
      refine ⟨_, List.contains_iff_mem.1 dropped, ?_⟩
      rw [SameLetters, (lower_of_dropped (List.contains_iff_mem.1 dropped)).2]
      simp
    refine bare (String.ofList before) (String.ofList after) usual (String.toList_inj.1 ?_)
    simp [parts]
  next => rfl

/-! ## Names of one library -/

theorem isStored_append {s t : String} : IsStored (s ++ t) ↔ IsStored s ∧ IsStored t := by
  simp only [IsStored, String.toList_append, List.forall_mem_append]

theorem IsUsual.isStored {extension : String} (h : IsUsual extension) : IsStored extension := by
  have each : ∀ usual ∈ droppedExtensions, IsStored usual := by decide +kernel
  obtain ⟨usual, dropped, same⟩ := h
  exact same.isStored_iff.2 (each usual dropped)

theorem isStored_dot : IsStored "." := by decide

theorem Alias.isStored_iff {name name' : String} (h : Alias name name') :
    IsStored name ↔ IsStored name' := by
  cases h with
  | letters same => exact same.isStored_iff
  | extension usual usual' =>
    simp only [isStored_append, isStored_dot, usual.isStored, usual'.isStored]
  | dropped usual => simp only [isStored_append, isStored_dot, usual.isStored, and_true]

theorem libraryName_eq_of_alias {name name' : String} (h : Alias name name')
    (stored : IsStored name) : libraryName name = libraryName name' := by
  have stored' := h.isStored_iff.1 stored
  cases h with
  | letters same => rw [libraryName, libraryName, same.lowerText_eq stored]
  | extension usual usual' =>
    rw [libraryName_of_usual stored usual, libraryName_of_usual stored' usual']
  | dropped usual bare => rw [libraryName_of_usual stored usual, libraryName_of_bare stored' bare]

/-- Changes one after the other, back and forth, keep what each of them keeps. -/
theorem keeps_of_eqvGen {α β : Type} {r : α → α → Prop} {P : α → Prop} {f : α → β}
    (step : ∀ a b, r a b → (P a ↔ P b) ∧ (P a → f a = f b)) {a b : α}
    (h : Relation.EqvGen r a b) : (P a ↔ P b) ∧ (P a → f a = f b) := by
  induction h with
  | rel a b h => exact step a b h
  | refl => exact ⟨.rfl, fun _ => rfl⟩
  | symm _ _ _ ih => exact ⟨ih.1.symm, fun holds => (ih.2 (ih.1.2 holds)).symm⟩
  | trans _ _ _ _ _ ih ih' =>
    exact ⟨ih.1.trans ih'.1, fun holds => (ih.2 holds).trans (ih'.2 (ih.1.1 holds))⟩

theorem libraryName_eq_of_aliases {name name' : String} (h : Relation.EqvGen Alias name name')
    (stored : IsStored name) : libraryName name = libraryName name' :=
  (keeps_of_eqvGen (fun _ _ h => ⟨h.isStored_iff, libraryName_eq_of_alias h⟩) h).2 stored

/-- The libraries whose ordinals are known are written as they are hashed. -/
theorem libraryName_of_winsock {library : String} (shared : library ∈ winsockLibraries) :
    IsStored library ∧ libraryName library = library := by
  have each : ∀ library ∈ winsockLibraries, IsStored library ∧ libraryName library = library := by
    decide +kernel
  exact each library shared

end PeFacts.Imphash
