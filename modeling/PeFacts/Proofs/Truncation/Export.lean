import PeFacts.Export
import PeFacts.Proofs.Truncation.Header

/-!
# Exports of a truncated buffer

The tables of addresses and of names end where the buffer does. Of the ordinals a truncated buffer
has the first ones; of the names, which stand elsewhere, it may miss some in between.
-/

namespace PeFacts.ExportTable

variable {data : Bytes} (rest : Bytes) {t t' : SectionTable} (h : t.Extends t')

theorem slots_prefix (off count : Nat) :
    slots data off count <+: slots (data ++ rest) off count := by
  refine map_range_prefix (by rw [Array.size_append]; omega) fun i hi => ?_
  exact (Bytes.number_append rest (by omega)).symm

include h in
/-- A table that can be read in the truncated buffer has the same first slots in the whole one. -/
theorem tableSlots_prefix {rva count : Nat} {found : List Nat}
    (there : tableSlots? data t rva count = some found) :
    ∃ found', tableSlots? (data ++ rest) t' rva count = some found' ∧ found <+: found' := by
  unfold tableSlots? at there ⊢
  split at there
  · cases there
  next given =>
    obtain ⟨off, position, rfl⟩ := Option.map_eq_some_iff.1 there
    rw [if_neg given, (h.persists_offset rva).of_some position]
    exact ⟨_, rfl, slots_prefix rest off count⟩

include h in
theorem readOrdinals_beginning (base announced rva : Nat) (limit : Int) :
    (readOrdinals data t base announced rva limit).1 <+:
      (readOrdinals (data ++ rest) t' base announced rva limit).1 := by
  unfold readOrdinals
  split
  · exact List.prefix_refl _
  · rcases clampCount announced limit with ⟨count, clamped⟩
    dsimp only
    cases there : tableSlots? data t rva count with
    | none => exact List.nil_prefix
    | some found =>
      obtain ⟨_, there', others, rfl⟩ := tableSlots_prefix rest h there
      simp only [there', List.zipIdx_append, List.filterMap_append]
      exact List.prefix_append _ _

variable {limits : Limits} (forward : 0 ≤ limits.maxNameLength)

include h forward in
theorem persists_name (rva : Nat) :
    Persists (name? data t limits rva) (name? (data ++ rest) t' limits rva) :=
  ((h.persists_offset rva).bind fun off => Bytes.persists_cString rest off forward).filter _

include h forward in
theorem filterMap_name_sublist (found : List Nat) :
    (found.filterMap (name? data t limits)).Sublist
      (found.filterMap (name? (data ++ rest) t' limits)) := by
  induction found with
  | nil => exact .refl _
  | cons rva found ih =>
    rcases persists_name rest h forward rva with missing | same
    · rw [List.filterMap_cons_none missing]
      refine ih.trans ?_
      rw [List.filterMap_cons]
      split
      · exact .refl _
      · exact List.sublist_cons_self _ _
    · rw [List.filterMap_cons, List.filterMap_cons, ← same]
      split
      · exact ih
      · exact ih.cons_cons _

include h forward in
theorem readNames_sublist (announced namesRva ordinalsRva : Nat) :
    (readNames data t limits announced namesRva ordinalsRva).1.Sublist
      (readNames (data ++ rest) t' limits announced namesRva ordinalsRva).1 := by
  unfold readNames
  split
  · exact .refl _
  · rcases clampCount announced limits.maxExports with ⟨count, clamped⟩
    dsimp only
    cases there : tableSlots? data t namesRva count with
    | none => exact List.nil_sublist _
    | some found =>
      obtain ⟨_, there', others, rfl⟩ := tableSlots_prefix rest h there
      rw [there']
      simp only [List.map_append, List.filterMap_append, List.filterMap_map, Function.comp_def]
      exact (filterMap_name_sublist rest h forward found).trans (List.sublist_append_left _ _)

include h forward in
/-- The whole buffer exports what the truncated one does. -/
theorem read_extends (rva : Nat) :
    (read data t limits rva).1.ordinals <+: (read (data ++ rest) t' limits rva).1.ordinals ∧
      (read data t limits rva).1.names.Sublist (read (data ++ rest) t' limits rva).1.names := by
  unfold read
  cases position : t.offset? rva with
  | none => exact ⟨List.nil_prefix, List.nil_sublist _⟩
  | some off =>
    rw [(h.persists_offset rva).of_some position]
    by_cases room : data.holds off directorySize
    · have fields : off + 40 ≤ data.size := Bytes.holds_iff.1 room
      simp (disch := omega) only [room, Bytes.holds_append rest room, Bytes.number_append,
        Bool.not_true, Bool.false_eq_true, if_false]
      exact ⟨readOrdinals_beginning rest h _ _ _ _, readNames_sublist rest h forward _ _ _⟩
    · simp only [room, Bool.not_false, if_true]
      exact ⟨List.nil_prefix, List.nil_sublist _⟩

/-- A function that is exported among fewer is exported among more. -/
theorem exports_mono {x x' : ExportTable} (ordinals : x.ordinals <+: x'.ordinals)
    (names : x.names.Sublist x'.names) (key : FunctionKey) (found : x.exports key) :
    x'.exports key := by
  cases key with
  | any => cases found
  | name s =>
    obtain ⟨n, hn, same⟩ := exports_name_iff.1 found
    exact exports_name_iff.2 ⟨n, names.subset hn, same⟩
  | ordinal n =>
    obtain ⟨m, hm, same⟩ := exports_ordinal_iff.1 found
    exact exports_ordinal_iff.2 ⟨m, ordinals.subset hm, same⟩

end PeFacts.ExportTable
