import Mathlib.Data.List.Forall2
import PeFacts.Imphash
import PeFacts.Proofs.Reading

/-!
# Tokens of the import hash

`Token d f token` is the rule by which the function `f` of the DLL `d` is hashed. Every function that
an import table can hold has one token (`forall₂_tokens`), so the tokens are as many as the functions.
-/

namespace PeFacts

/-- The function is imported by a name, with a hint, or by an ordinal. -/
inductive ImportedFunction.Imported : ImportedFunction → Prop
  | byName {name : String} {hint : Nat} (nonempty : name ≠ "") (small : hint < 0x10000) :
      Imported ⟨some name, none, some hint⟩
  | byOrdinal {n : Nat} (small : n < 0x10000) : Imported ⟨none, some (n : Int), none⟩

namespace Imphash

/-- The ordinal of a Winsock library that stands for a name. -/
structure Winsock (library : String) (ordinal : Int) (name : String) : Prop where
  library : library ∈ winsockLibraries
  known : ∃ n : Nat, ordinal = n ∧ (n, name) ∈ winsockNames

/-- The text that stands for a function of a library. -/
inductive Stands (library : String) : ImportedFunction → String → Prop
  | byName {name : String} {ordinal? : Option Int} {hint? : Option Nat} :
      Stands library ⟨some name, ordinal?, hint?⟩ (lowerText name)
  | winsock {ordinal : Int} {name : String} {hint? : Option Nat}
      (known : Winsock library ordinal name) :
      Stands library ⟨none, some ordinal, hint?⟩ (lowerText name)
  | byOrdinal {ordinal : Int} {hint? : Option Nat}
      (unknown : ∀ name, ¬ Winsock library ordinal name) :
      Stands library ⟨none, some ordinal, hint?⟩ s!"ord{ordinal}"

/-- The token of a function of a DLL. -/
def Token (d : ImportedDll) (f : ImportedFunction) (token : String) : Prop :=
  ∃ text, Stands (libraryName d.name) f text ∧ token = s!"{libraryName d.name}.{text}"

/-- No ordinal has two names. -/
theorem eq_of_mem_winsockNames {n : Nat} {name name' : String} (known : (n, name) ∈ winsockNames)
    (known' : (n, name') ∈ winsockNames) : name = name' := by
  have unique : ∀ e ∈ winsockNames, ∀ e' ∈ winsockNames, e.1 = e'.1 → e.2 = e'.2 := by
    decide +kernel
  exact unique _ known _ known' rfl

theorem ordinalName?_eq_some_iff {library name : String} {ordinal : Int} :
    ordinalName? library ordinal = some name ↔ Winsock library ordinal name := by
  unfold ordinalName?
  constructor
  · intro found
    split at found
    next shared =>
      obtain ⟨⟨n, name'⟩, first, rfl⟩ := Option.map_eq_some_iff.1 found
      have same := List.find?_some first
      exact ⟨List.contains_iff_mem.1 shared, n, (of_decide_eq_true same).symm,
        List.mem_of_find?_eq_some first⟩
    next => cases found
  · rintro ⟨shared, n, rfl, known⟩
    rw [if_pos (List.contains_iff_mem.2 shared)]
    cases first : winsockNames.find? fun e => (e.1 : Int) == (n : Int) with
    | none => exact absurd (List.find?_eq_none.1 first _ known) (by simp)
    | some e =>
      obtain ⟨k, name'⟩ := e
      have same : (k : Int) = n := beq_iff_eq.1 (List.find?_some first :)
      obtain rfl : k = n := Int.ofNat_inj.1 same
      rw [Option.map_some, eq_of_mem_winsockNames (List.mem_of_find?_eq_some first) known]

/-- A name or an ordinal has exactly one text that stands for it. -/
theorem stands_iff {library text : String} {f : ImportedFunction} :
    Stands library f text ↔ functionName? library f = some text := by
  obtain ⟨name?, ordinal?, hint?⟩ := f
  unfold functionName?
  constructor
  · intro h
    cases h with
    | byName => rfl
    | winsock known => simp only [ordinalName?_eq_some_iff.2 known]
    | @byOrdinal ordinal _ unknown =>
      cases found : ordinalName? library ordinal with
      | none => simp only [found]
      | some name => exact absurd (ordinalName?_eq_some_iff.1 found) (unknown name)
  · intro found
    rcases name? with _ | name <;> rcases ordinal? with _ | ordinal <;> dsimp only at found
    · cases found
    · split at found
      next known => cases found; exact .winsock (ordinalName?_eq_some_iff.1 known)
      next missing =>
        cases found
        refine .byOrdinal fun name known => ?_
        rw [ordinalName?_eq_some_iff.2 known] at missing
        cases missing
    · cases found; exact .byName
    · cases found; exact .byName

theorem ImportedFunction.Imported.stands {f : ImportedFunction} (h : f.Imported)
    (library : String) : ∃ text, Stands library f text := by
  cases h with
  | byName => exact ⟨_, .byName⟩
  | @byOrdinal n _ =>
    by_cases known : ∃ name, Winsock library n name
    · obtain ⟨name, known⟩ := known
      exact ⟨_, .winsock known⟩
    · exact ⟨_, .byOrdinal (not_exists.1 known)⟩

/-- What a library gives for a function, if anything. -/
def token? (library : String) (f : ImportedFunction) : Option String :=
  (functionName? library f).map fun name => s!"{library}.{name}"

/-- Of the name of a DLL only the library counts. -/
theorem dllTokens_eq (d : ImportedDll) :
    dllTokens d = d.functions.filterMap (token? (libraryName d.name)) := rfl

theorem token_iff {d : ImportedDll} {f : ImportedFunction} {token : String} :
    Token d f token ↔ token? (libraryName d.name) f = some token := by
  simp only [Token, stands_iff, token?, Option.map_eq_some_iff]
  exact exists_congr fun text => and_congr_right fun _ => eq_comm

theorem forall₂_dllTokens {d : ImportedDll} (imported : ∀ f ∈ d.functions, f.Imported) :
    List.Forall₂ (Token d) d.functions (dllTokens d) := by
  rw [dllTokens_eq]
  generalize d.functions = functions at imported
  induction functions with
  | nil => exact .nil
  | cons f functions ih =>
    obtain ⟨here, later⟩ := List.forall_mem_cons.1 imported
    obtain ⟨text, stands⟩ := ImportedFunction.Imported.stands here (libraryName d.name)
    have token : Token d f s!"{libraryName d.name}.{text}" := ⟨text, stands, rfl⟩
    rw [List.filterMap_cons_some (token_iff.1 token)]
    exact .cons token (ih later)

/-- Each function, in order, has its token. -/
theorem forall₂_tokens {dlls : List ImportedDll}
    (imported : ∀ d ∈ dlls, ∀ f ∈ d.functions, f.Imported) :
    List.Forall₂ (fun p token => Token p.1 p.2 token)
      (dlls.flatMap fun d => d.functions.map (d, ·)) (tokens dlls) := by
  induction dlls with
  | nil => exact .nil
  | cons d dlls ih =>
    obtain ⟨here, later⟩ := List.forall_mem_cons.1 imported
    have first : List.Forall₂ (fun p token => Token p.1 p.2 token) (d.functions.map (d, ·))
        (dllTokens d) := List.forall₂_map_left_iff.2 (forall₂_dllTokens here)
    exact List.rel_append first (ih later)

end Imphash

end PeFacts
