import PeFacts.Proofs.Imphash.Library
import PeFacts.Proofs.Import.Agreement

/-!
# What the import hash ignores

`Rewrites` has one rule for each change of an import table that is not to count: another name of a
DLL, a function imported in another way, a DLL in two parts, a DLL without functions. Each rule keeps
the tokens of names that can be stored (`tokens_eq_of_rewrites`), so any number of them, back and
forth, keeps the import hash: `digest_ignores_rewrites`.
-/

namespace PeFacts

/-- The names that go with the functions of the DLL are such as are stored. -/
def ImportedDll.Plain (d : ImportedDll) : Prop :=
  ∀ f ∈ d.functions, IsStored d.name ∧ ∀ name, f.name? = some name → IsStored name

namespace Imphash

open Relation (EqvGen)

/-- The ways of importing one function of a DLL: by its name in another case, or from a Winsock library
by the ordinal that stands for the name. -/
inductive Reimported (dll : String) : ImportedFunction → ImportedFunction → Prop
  | letters {name name' : String} {ordinal? : Option Int} {hint? : Option Nat}
      (same : SameLetters name name') :
      Reimported dll ⟨some name, ordinal?, hint?⟩ ⟨some name', ordinal?, hint?⟩
  | winsock {library name name' : String} {ordinal : Nat} {ordinal? : Option Int}
      {hint? hint?' : Option Nat} (shared : library ∈ winsockLibraries)
      (one : EqvGen Alias dll library) (known : (ordinal, name') ∈ winsockNames)
      (same : SameLetters name name') :
      Reimported dll ⟨some name, ordinal?, hint?⟩ ⟨none, some (ordinal : Int), hint?'⟩

/-- The changes of an import table that the import hash is not to show. -/
inductive Rewrites : List ImportedDll → List ImportedDll → Prop
  | rename {before after : List ImportedDll} {name name' : String}
      {functions : List ImportedFunction} (one : Alias name name') :
      Rewrites (before ++ ⟨name, functions⟩ :: after) (before ++ ⟨name', functions⟩ :: after)
  | reimport {before after : List ImportedDll} {name : String}
      {functions functions' : List ImportedFunction} {f f' : ImportedFunction}
      (one : Reimported name f f') :
      Rewrites (before ++ ⟨name, functions ++ f :: functions'⟩ :: after)
        (before ++ ⟨name, functions ++ f' :: functions'⟩ :: after)
  | split {before after : List ImportedDll} {name : String}
      {functions functions' : List ImportedFunction} :
      Rewrites (before ++ ⟨name, functions ++ functions'⟩ :: after)
        (before ++ ⟨name, functions⟩ :: ⟨name, functions'⟩ :: after)
  | insert {before after : List ImportedDll} {name : String} :
      Rewrites (before ++ after) (before ++ ⟨name, []⟩ :: after)

/-! ## One change -/

variable {dll : String} {f f' : ImportedFunction}

theorem isStored_of_known {ordinal : Nat} {name : String} (known : (ordinal, name) ∈ winsockNames) :
    IsStored name := by
  have each : ∀ e ∈ winsockNames, IsStored e.2 := by decide +kernel
  exact each _ known

theorem Reimported.plain_iff (h : Reimported dll f f') :
    (∀ name, f.name? = some name → IsStored name) ↔ ∀ name, f'.name? = some name → IsStored name := by
  cases h with
  | letters same => simp only [Option.some.injEq, forall_eq', same.isStored_iff]
  | winsock _ _ known same =>
    simp only [Option.some.injEq, forall_eq', reduceCtorEq, false_implies, implies_true, iff_true]
    exact same.isStored_iff.2 (isStored_of_known known)

theorem Reimported.token?_eq (h : Reimported dll f f') (stored : IsStored dll)
    (plain : ∀ name, f.name? = some name → IsStored name) :
    token? (libraryName dll) f = token? (libraryName dll) f' := by
  unfold token?
  cases h with
  | letters same =>
    rw [stands_iff.1 .byName, stands_iff.1 .byName, same.lowerText_eq (plain _ rfl)]
  | @winsock library name name' ordinal _ _ hint?' shared one known same =>
    have hashed : libraryName dll = library :=
      (libraryName_eq_of_aliases one stored).trans (libraryName_of_winsock shared).2
    have winsock : Winsock (libraryName dll) ordinal name' := ⟨hashed ▸ shared, ordinal, rfl, known⟩
    rw [stands_iff.1 .byName, stands_iff.1 (.winsock winsock), same.lowerText_eq (plain _ rfl)]

theorem tokens_append (before after : List ImportedDll) :
    tokens (before ++ after) = tokens before ++ tokens after := List.flatMap_append

theorem tokens_cons (d : ImportedDll) (after : List ImportedDll) :
    tokens (d :: after) = dllTokens d ++ tokens after := List.flatMap_cons

/-- A change leaves names such as are stored, and the tokens of these as they are. -/
theorem tokens_eq_of_rewrites {dlls dlls' : List ImportedDll} (h : Rewrites dlls dlls') :
    ((∀ d ∈ dlls, d.Plain) ↔ ∀ d ∈ dlls', d.Plain) ∧
      ((∀ d ∈ dlls, d.Plain) → tokens dlls = tokens dlls') := by
  cases h with
  | @rename before after name name' functions one =>
    have stored := one.isStored_iff
    constructor
    · simp only [List.forall_mem_append, List.forall_mem_cons, ImportedDll.Plain, stored]
    · intro plain
      have here : ImportedDll.Plain ⟨name, functions⟩ := plain _ (by simp)
      simp only [tokens_append, tokens_cons, dllTokens_eq]
      cases functions with
      | nil => simp only [List.filterMap_nil]
      | cons f functions =>
        rw [libraryName_eq_of_alias one (here f List.mem_cons_self).1]
  | @reimport before after name functions functions' f f' one =>
    have names := one.plain_iff
    constructor
    · simp only [List.forall_mem_append, List.forall_mem_cons, ImportedDll.Plain, names]
    · intro plain
      have here : ImportedDll.Plain ⟨name, functions ++ f :: functions'⟩ := plain _ (by simp)
      obtain ⟨stored, named⟩ := here f (by simp)
      simp only [tokens_append, tokens_cons, dllTokens_eq, List.filterMap_append,
        List.filterMap_cons, one.token?_eq stored named]
  | split =>
    constructor
    · simp only [List.forall_mem_append, List.forall_mem_cons, ImportedDll.Plain, and_assoc]
    · intro _
      simp only [tokens_append, tokens_cons, dllTokens_eq, List.filterMap_append,
        List.append_assoc]
  | @insert before after name =>
    constructor
    · have empty : ImportedDll.Plain ⟨name, []⟩ := nofun
      simp only [List.forall_mem_append, List.forall_mem_cons, empty, true_and]
    · intro _
      rw [tokens_append, tokens_append, tokens_cons, dllTokens_eq, List.filterMap_nil,
        List.nil_append]

/-- The names that are read are such as are stored. -/
theorem plain_of_reads {src : ImportTable.Source} {d : ImportedDll} (h : src.Reads d) : d.Plain := by
  intro f there
  obtain ⟨rva, named⟩ := h.name
  obtain ⟨thunk, found⟩ := h.functions f there
  exact ⟨(ImportTable.Source.of_text? named).2, (ImportTable.Source.of_function? found).2⟩

/-! ## Any changes -/

/-- The import hash ignores what it is meant to ignore: the case of letters, a usual extension, the
ordinals of the Winsock libraries, how the functions of a DLL are grouped, and DLLs without functions.
This holds of names such as are stored, and all names that are read are. -/
theorem digest_ignores_rewrites :
    (∀ dlls dlls' : List ImportedDll, (∀ d ∈ dlls, d.Plain) → EqvGen Rewrites dlls dlls' →
      tokens dlls = tokens dlls' ∧ digest dlls = digest dlls') ∧
    ∀ (i : Image) (d : ImportedDll), d ∈ i.readImports.1.dlls → d.Plain := by
  refine ⟨fun dlls dlls' plain changes => ?_, fun i d there => ?_⟩
  · have same : tokens dlls = tokens dlls' :=
      (keeps_of_eqvGen (fun _ _ h => tokens_eq_of_rewrites h) changes).2 plain
    exact ⟨same, by rw [digest, digest, same]⟩
  · obtain ⟨src, h⟩ := i.reads_of_mem_readImports there
    exact plain_of_reads h

/-- Two functions of a Winsock library, imported by their names. -/
def byNames : List ImportedDll :=
  [⟨"WS2_32.dll", [⟨some "Accept", none, some 7⟩, ⟨some "recv", none, some 8⟩]⟩]

/-- The same functions, one by its ordinal, in two parts behind a DLL without functions. -/
def inParts : List ImportedDll :=
  [⟨"tdi.sys", []⟩, ⟨"ws2_32", [⟨none, some 1, none⟩]⟩, ⟨"ws2_32", [⟨some "recv", none, some 8⟩]⟩]

theorem digest_inParts :
    (∀ d ∈ byNames, d.Plain) ∧ EqvGen Rewrites byNames inParts ∧ digest byNames = digest inParts := by
  have plain : ∀ d ∈ byNames, d.Plain := by
    have stored : IsStored "WS2_32.dll" ∧ IsStored "Accept" ∧ IsStored "recv" := by decide
    simp [byNames, ImportedDll.Plain, stored]
  have dropped : Alias "WS2_32.dll" "WS2_32" :=
    show Alias ("WS2_32" ++ "." ++ "dll") "WS2_32" from
      .dropped ⟨"dll", by decide, by decide⟩ (isBare_of_no_dot (by decide))
  have lower : Alias "WS2_32" "ws2_32" := .letters (by decide)
  have one : EqvGen Alias "WS2_32.dll" "ws2_32" := .trans _ _ _ (.rel _ _ dropped) (.rel _ _ lower)
  have ordinal : Reimported "WS2_32.dll" ⟨some "Accept", none, some 7⟩ ⟨none, some 1, none⟩ :=
    @Reimported.winsock _ "ws2_32" _ "accept" 1 _ _ _ (by decide) one (by decide) (by decide)
  have changes : EqvGen Rewrites byNames inParts :=
    .trans _ _ _ (.rel _ _ (@Rewrites.reimport [] [] _ [] _ _ _ ordinal)) <|
    .trans _ _ _ (.rel _ _ (@Rewrites.rename [] [] _ _ _ dropped)) <|
    .trans _ _ _ (.rel _ _ (@Rewrites.rename [] [] _ _ _ lower)) <|
    .trans _ _ _ (.rel _ _ (@Rewrites.split [] [] _ [_] _)) <|
    .rel _ _ (@Rewrites.insert [] _ _)
  exact ⟨plain, changes, (digest_ignores_rewrites.1 byNames inParts plain changes).2⟩

end Imphash

end PeFacts
