import PeFacts.Proofs.Imphash.Token
import PeFacts.Proofs.Import.Limit
import PeFacts.Proofs.Lower
import PeFacts.Proofs.Places
import PeFacts.Proofs.Truncation

/-!
# What is said of imports

The functions of an import table are looked for, hashed and listed. Each of the three asks in its own
way whether a function has a name or an ordinal, and they agree because a function that is read has
exactly one of both (`Source.of_function?`). `Coherent` says what comes of it for one table,
`Follows` that a table goes by its descriptors and thunks, and `imports_are_described_alike` says both
of every image, whatever was asked before.
-/

namespace PeFacts

/-- The key asks for the function, in whatever case the letters of its name are written. -/
inductive FunctionKey.AsksFor : FunctionKey → ImportedFunction → Prop
  | name {s name : String} {ordinal? : Option Int} {hint? : Option Nat}
      (same : SameLetters s name) : AsksFor (.name s) ⟨some name, ordinal?, hint?⟩
  | ordinal {n : Int} {name? : Option String} {hint? : Option Nat} :
      AsksFor (.ordinal n) ⟨name?, some n, hint?⟩

/-- The DLL has a function that answers to the key. -/
def ImportedDll.Has (d : ImportedDll) : FunctionKey → Prop
  | .any => True
  | .name s => ∃ f ∈ d.functions, ∃ name, f.name? = some name ∧ lowerText name = lowerText s
  | .ordinal n => ∃ f ∈ d.functions, f.ordinal? = some n

/-- Each of the functions gives one of the names or one of the ordinals, in order. -/
inductive ImportedFunction.Splits :
    List ImportedFunction → (names : List String) → (ordinals : List Int) → Prop
  | nil : Splits [] [] []
  | name {functions : List ImportedFunction} {names : List String} {ordinals : List Int}
      {name : String} {hint? : Option Nat} (rest : Splits functions names ordinals) :
      Splits (⟨some name, none, hint?⟩ :: functions) (name :: names) ordinals
  | ordinal {functions : List ImportedFunction} {names : List String} {ordinals : List Int}
      {n : Int} {hint? : Option Nat} (rest : Splits functions names ordinals) :
      Splits (⟨none, some n, hint?⟩ :: functions) names (n :: ordinals)

theorem ImportedFunction.Splits.length {functions : List ImportedFunction} {names : List String}
    {ordinals : List Int} (h : Splits functions names ordinals) :
    names.length + ordinals.length = functions.length := by
  induction h with
  | nil => rfl
  | name _ ih | ordinal _ ih => simp only [List.length_cons, ← ih]; omega

theorem ImportedDll.splits {d : ImportedDll} (imported : ∀ f ∈ d.functions, f.Imported) :
    ImportedFunction.Splits d.functions d.names d.ordinals := by
  unfold names ordinals
  generalize d.functions = functions at imported
  induction functions with
  | nil => exact .nil
  | cons f functions ih =>
    obtain ⟨here, later⟩ := List.forall_mem_cons.1 imported
    cases here with
    | byName => exact .name (ih later)
    | byOrdinal => exact .ordinal (ih later)

namespace ImportTable

/-! ## Questions -/

theorem functionCount_eq (t : ImportTable) :
    t.functionCount = (t.dlls.flatMap fun d => d.functions.map (d, ·)).length := by
  simp [functionCount, List.length_flatMap, List.sum_eq_foldl, List.foldl_map]

/-- Which questions are answered by yes. -/
theorem imports_iff {t : ImportTable} {dll : String} {key : FunctionKey} :
    t.imports dll key = true ↔
      ∃ d ∈ t.dlls, lowerText d.name = lowerText dll ∧ d.Has key := by
  unfold imports
  simp only [List.any_eq_true, Bool.and_eq_true, Bool.or_eq_true, beq_iff_eq]
  refine exists_congr fun d => and_congr_right fun _ => and_congr_right fun _ => ?_
  cases key with
  | any => simp [lowerKey, ImportedDll.Has]
  | name s => simp [lowerKey, ImportedDll.Has, answers, Option.any_eq_true]
  | ordinal n => simp [lowerKey, ImportedDll.Has, answers]

/-! ## Reading -/

namespace Source

variable {src : Source}

theorem of_text? {rva skip : Nat} {text : String} (found : src.text? rva skip = some text) :
    text ≠ "" ∧ IsStored text := by
  obtain ⟨nonempty, off, -, read⟩ := text?_eq_some_iff.1 found
  exact ⟨nonempty, Bytes.isStored_of_cString? read⟩

/-- Whatever a thunk holds, a function that it stands for has exactly one of a name and an ordinal. -/
theorem of_function? {thunk : Nat} {f : ImportedFunction} (found : src.function? thunk = some f) :
    f.Imported ∧ ∀ name, f.name? = some name → IsStored name := by
  obtain ⟨n, small, rfl⟩ | ⟨hint, small, rva, text, read, rfl⟩ := function?_cases found
  · exact ⟨.byOrdinal small, nofun⟩
  · obtain ⟨nonempty, stored⟩ := of_text? read
    exact ⟨.byName nonempty small, fun _ same => Option.some.inj same ▸ stored⟩

end Source

/-! ## Order -/

section InRow

variable {α : Type} {entry : Nat → Prop} {width : Nat} {found? : Nat → Option α}

/-- The entry with this index is one of the first `left` entries from `off` on, and this is what is
found at it. -/
structure InRow (entry : Nat → Prop) (width : Nat) (found? : Nat → Option α) (off left index : Nat)
    (a : α) : Prop where
  allowed : index < left
  row : Row entry width off (index + 1)
  found : found? (off + width * index) = some a

theorem enumerates_inRow_zero (off : Nat) : Enumerates (InRow entry width found? off 0) [] :=
  enumerates_nil fun _ _ there => absurd there.allowed (Nat.not_lt_zero _)

theorem enumerates_inRow_ended {off left : Nat} (ended : ¬ entry off) :
    Enumerates (InRow entry width found? off left) [] :=
  enumerates_nil fun _ _ there => ended (row_succ.1 there.row).1

theorem enumerates_inRow_succ {off left : Nat} (here : entry off) {found : List α}
    (h : Enumerates (InRow entry width found? (off + width) left) found) :
    Enumerates (InRow entry width found? off (left + 1)) ((found? off).toList ++ found) := by
  refine h.behind (fun a => ⟨fun first => first.found, fun first => ?_⟩) fun i a => ⟨?_, ?_⟩
  · exact ⟨left.succ_pos, row_succ.2 ⟨here, row_zero⟩, first⟩
  · rintro ⟨allowed, row, found⟩
    exact ⟨Nat.lt_of_succ_lt_succ allowed, (row_succ.1 row).2, place_succ off width i ▸ found⟩
  · rintro ⟨allowed, row, found⟩
    exact ⟨Nat.succ_lt_succ allowed, row_succ.2 ⟨here, row⟩, (place_succ off width i).symm ▸ found⟩

end InRow

namespace Source

variable (src : Source)

/-- The function that the thunk at a position stands for. -/
def functionAt? (off : Nat) : Option ImportedFunction :=
  (src.data.number? off src.layout.thunkSize).bind src.function?

/-- The address of the thunks in the descriptor at a position. -/
def thunksAddress (off : Nat) : Nat :=
  if src.data.number off 4 = 0 then src.data.number (off + 16) 4 else src.data.number off 4

theorem thunksFrom_found (dll : String) (start off left : Nat) (r : Reading ImportedFunction) :
    ∃ found, (src.thunksFrom dll start off left r).found.toList = r.found.toList ++ found ∧
      Enumerates (InRow src.HasThunk src.layout.thunkSize src.functionAt? off left) found := by
  induction left generalizing off r with
  | zero => exact ⟨[], (List.append_nil _).symm, enumerates_inRow_zero off⟩
  | succ left ih =>
    have ended (last : ¬ src.HasThunk off) :
        Enumerates (InRow src.HasThunk src.layout.thunkSize src.functionAt? off (left + 1)) [] :=
      enumerates_inRow_ended last
    rw [thunksFrom]
    split
    next outside =>
      exact ⟨[], (List.append_nil _).symm, ended (by simp [HasThunk, outside])⟩
    next zero =>
      exact ⟨[], (List.append_nil _).symm, ended (by simp [HasThunk, zero])⟩
    next thunk more read =>
      have here : src.HasThunk off := ⟨thunk, read, more⟩
      have first : src.functionAt? off = src.function? thunk := by
        rw [functionAt?, read, Option.bind_some]
      obtain ⟨found, kept, later⟩ := ih (off + src.layout.thunkSize) _
      refine ⟨_, ?_, enumerates_inRow_succ here later⟩
      rw [kept, first, ← List.append_assoc]
      congr 1
      cases src.function? thunk with
      | none => exact (List.append_nil _).symm
      | some f => exact Array.toList_push

/-- The functions of a DLL are those its thunks stand for. -/
theorem enumerates_of_dll? {off start : Nat} {d : ImportedDll} (found : src.dll? off = some d)
    (located : src.sections.offset? (src.thunksAddress off) = some start) :
    Enumerates (InRow src.HasThunk src.layout.thunkSize src.functionAt? start
      src.limits.maxImportFunctions.toNat) d.functions := by
  obtain ⟨name, -, rfl⟩ := Option.map_eq_some_iff.1 found
  change Enumerates _ (src.functions name (src.thunksAddress off)).found.toList
  rw [functions, located]
  dsimp only
  split
  next below =>
    rw [Int.toNat_of_nonpos (Int.le_of_lt below)]
    exact enumerates_inRow_zero start
  next =>
    obtain ⟨functions, kept, each⟩ := src.thunksFrom_found name start start
      src.limits.maxImportFunctions.toNat {}
    rw [kept]
    exact each

/-- The DLLs are those of the descriptors. -/
theorem enumerates_dllsFrom (off left : Nat) :
    Enumerates (InRow src.HasDescriptor descriptorSize src.dll? off left)
      ((src.dllsFrom off left).map (·.2)) := by
  induction left generalizing off with
  | zero => exact enumerates_inRow_zero off
  | succ left ih =>
    rw [dllsFrom]
    split
    next outside => exact enumerates_inRow_ended (by simp [HasDescriptor, outside])
    next bytes read =>
      split
      next zero =>
        refine enumerates_inRow_ended ?_
        rintro ⟨bytes', read', nonzero⟩
        rw [read, Option.some.injEq] at read'
        rw [← read', zero] at nonzero
        cases nonzero
      next nonzero =>
        have here : src.HasDescriptor off := ⟨bytes, read, Bool.eq_false_iff.2 nonzero⟩
        have parts : (((src.dll? off).map (off, ·)).toList ++
            src.dllsFrom (off + descriptorSize) left).map (·.2) =
            (src.dll? off).toList ++ (src.dllsFrom (off + descriptorSize) left).map (·.2) := by
          rw [List.map_append]
          cases src.dll? off <;> rfl
        rw [parts]
        exact enumerates_inRow_succ here (ih (off + descriptorSize))

end Source

/-- The table goes by the import directory at an address: its DLLs are those of the descriptors, in
their order, and the functions of a DLL are those of the thunks, in their order. -/
structure Follows (src : Source) (rva : Nat) (t : ImportTable) : Prop where
  dlls : ∀ base, src.sections.offset? rva = some base →
    Enumerates (InRow src.HasDescriptor descriptorSize src.dll? base src.limits.maxImportDlls.toNat)
      t.dlls
  functions : ∀ off d start, src.dll? off = some d →
    src.sections.offset? (src.thunksAddress off) = some start →
    Enumerates (InRow src.HasThunk src.layout.thunkSize src.functionAt? start
      src.limits.maxImportFunctions.toNat) d.functions

theorem follows_read (src : Source) (rva : Nat) : (read src rva).1.Follows src rva where
  dlls base located := by
    rw [read_dlls, ImportTable.located, located]
    dsimp only
    split
    next below =>
      rw [Int.toNat_of_nonpos (Int.le_of_lt below)]
      exact enumerates_inRow_zero base
    next => exact src.enumerates_dllsFrom base _
  functions _ _ _ found located := src.enumerates_of_dll? found located

/-! ## Agreement -/

/-- What is looked for, hashed and listed of an import table are the same functions. -/
structure Coherent (t : ImportTable) : Prop where
  imported : ∀ d ∈ t.dlls, ∀ f ∈ d.functions, f.Imported
  tokens : List.Forall₂ (fun p token => Imphash.Token p.1 p.2 token)
    (t.dlls.flatMap fun d => d.functions.map (d, ·)) (Imphash.tokens t.dlls)
  count : (Imphash.tokens t.dlls).length = t.functionCount
  listed : ∀ d ∈ t.dlls, ∃ names ordinals, d.toValue = .record [("dll", .text d.name),
      ("functions", .list (names.map .text)), ("ordinals", .list (ordinals.map .int))] ∧
    ImportedFunction.Splits d.functions names ordinals ∧
    names.length + ordinals.length = d.functions.length
  dlls : ∀ d ∈ t.dlls, ∀ dll, SameLetters dll d.name → t.imports dll = true
  functions : ∀ d ∈ t.dlls, ∀ f ∈ d.functions, ∀ dll key, SameLetters dll d.name →
    key.AsksFor f → t.imports dll key = true
  only : ∀ dll key, t.imports dll key = true →
    ∃ d ∈ t.dlls, lowerText d.name = lowerText dll ∧ d.Has key

/-- A table whose DLLs are put together of what is read. -/
theorem coherent_of_reads {t : ImportTable} (reads : ∀ d ∈ t.dlls, ∃ src : Source, src.Reads d) :
    t.Coherent := by
  have read (d) (hd : d ∈ t.dlls) (f) (hf : f ∈ d.functions) :
      f.Imported ∧ ∀ name, f.name? = some name → IsStored name := by
    obtain ⟨src, h⟩ := reads d hd
    obtain ⟨thunk, found⟩ := h.functions f hf
    exact Source.of_function? found
  have imported (d) (hd : d ∈ t.dlls) (f) (hf : f ∈ d.functions) : f.Imported := (read d hd f hf).1
  have named (d) (hd : d ∈ t.dlls) (dll : String) (same : SameLetters dll d.name) :
      lowerText d.name = lowerText dll := by
    obtain ⟨src, h⟩ := reads d hd
    obtain ⟨rva, found⟩ := h.name
    exact SameLetters.lowerText_eq same.symm (Source.of_text? found).2
  refine {
    imported
    tokens := Imphash.forall₂_tokens imported
    count := by rw [functionCount_eq, (Imphash.forall₂_tokens imported).length_eq]
    listed d hd := ?_
    dlls d hd dll same := imports_iff.2 ⟨d, hd, named d hd dll same, trivial⟩
    functions d hd f hf dll key same asks := imports_iff.2 ⟨d, hd, named d hd dll same, ?_⟩
    only _ _ := imports_iff.1 }
  · have splits := d.splits (imported d hd)
    exact ⟨d.names, d.ordinals, rfl, splits, splits.length⟩
  · cases asks with
    | name same =>
      exact ⟨_, hf, _, rfl, SameLetters.lowerText_eq same.symm ((read d hd _ hf).2 _ rfl)⟩
    | ordinal => exact ⟨_, hf, rfl⟩

end ImportTable

namespace Image

/-- After any queries, all that an image says of its imports is said of one table. -/
structure TellsImports (i : Image) (past : List Query) (t : ImportTable) : Prop where
  table : (i.importTable.run.run (i.after past)).1 = .ok t
  count : (i.ask (.fact .numberOfImportedFunctions) (i.after past)).1 = .ok (.nat t.functionCount)
  record : (i.ask (.fact .importTable) (i.after past)).1 =
    .ok (.list (t.dlls.map ImportedDll.toValue))
  functions : (i.ask .importFunctions (i.after past)).1 =
    .ok (.list (t.dlls.map fun d =>
      .list [.text d.name, .list (d.functions.map ImportedFunction.toValue)]))
  asked : ∀ dll key, (i.ask (.imports dll key) (i.after past)).1 = .ok (.bool (t.imports dll key))
  hash : (i.ask .imphash (i.after past)).1 = .ok (.text (Imphash.digest t.dlls))
  order : ∀ h, i.header? = some h → (h.directory importDirectory).address ≠ 0 →
    t.Follows ⟨i.data, h.layout, i.sections, i.limits⟩ (h.directory importDirectory).address

theorem tellsImports (i : Image) (past : List Query) : i.TellsImports past i.readImports.1 where
  table := (gives_content i .imports).run_after past
  count := run_view i .imports (fun t => Value.nat t.functionCount) past
  record := run_view i .imports (fun t => Value.list (t.dlls.map ImportedDll.toValue)) past
  functions := (gives_view i .imports _).run_after past
  asked dll key := ask_imports i past dll key
  hash := ((gives_view i .imports fun t => Imphash.digest t.dlls).map Value.text).run_after past
  order h found used := by
    unfold readImports
    rw [found]
    dsimp only
    rw [if_neg used]
    exact ImportTable.follows_read _ _

theorem reads_of_mem_readImports (i : Image) {d : ImportedDll} (there : d ∈ i.readImports.1.dlls) :
    ∃ src : ImportTable.Source, src.Reads d := by
  unfold readImports at there
  split at there
  · cases there
  · dsimp only at there
    split at there
    · cases there
    · exact ⟨_, ImportTable.Source.reads_of_mem_read _ there⟩

end Image

/-- The questions about imports, the tokens of the import hash and the listed names and ordinals
describe the same functions, each of which has exactly one of a name and an ordinal. -/
theorem imports_are_described_alike (data : Bytes) (mode : ScanMode) (limits : Limits)
    (reader : SignatureReader) :
    ∃ i, Image.load data mode limits reader = .ok i ∧
      ∃ t : ImportTable, t.Coherent ∧ ∀ past, i.TellsImports past t :=
  ⟨_, Image.load_eq .., _, ImportTable.coherent_of_reads fun _ => Image.reads_of_mem_readImports _,
    Image.tellsImports _⟩

end PeFacts
