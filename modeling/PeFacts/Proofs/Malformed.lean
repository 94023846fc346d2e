import PeFacts.Proofs.Truncation

/-!
# Malformed input

Whatever the bytes, the mode and the limits are, an image is loaded and every access to it that does
not ask for the signatures gives an answer. Where the reading left the domain of an operation there
would be none, so in all readers the checks come before every use.
-/

namespace PeFacts

namespace Value

theorem assign_of_new {name : String} {entries : List (String × Value)}
    (new : ∀ e ∈ entries, e.1 ≠ name) (v : Value) :
    assign name v entries = entries ++ [(name, v)] := by
  induction entries with
  | nil => rfl
  | cons e rest ih =>
    have other : (e.1 == name) = false := by simpa using new e (by simp)
    simp [assign, other, ih fun e he => new e (by simp [he])]

/-- Changes under names that are all different and all new are put at the end. -/
theorem assignAll_of_new {entries changes : List (String × Value)}
    (nodup : (entries ++ changes).map (·.1) |>.Nodup) :
    assignAll entries changes = entries ++ changes := by
  induction changes generalizing entries with
  | nil => simp [assignAll]
  | cons c rest ih =>
    have new : ∀ e ∈ entries, e.1 ≠ c.1 := by
      intro e he same
      rw [List.map_append, List.nodup_append] at nodup
      exact nodup.2.2 e.1 (List.mem_map_of_mem he) c.1 (by simp) same
    have step : assignAll entries (c :: rest) = assignAll (entries ++ [c]) rest := by
      rw [assignAll, List.foldl_cons, assign_of_new new]
      rfl
    rw [step, ih (by simpa using nodup), List.append_assoc]
    rfl

end Value

namespace Problem

/-- The details of a problem are named differently from one another and from what every record has. -/
theorem nodup_names (p : Problem) :
    (["code", "message", "kind"] ++ p.details.map (·.1)).Nodup := by
  cases p <;> simp [details]

theorem record_eq (p : Problem) :
    p.record = .record ([("code", .text p.code), ("message", .text p.message),
      ("kind", .text p.kind.name)] ++ p.details) := by
  rw [record, entryOf, Value.assignAll_of_new]
  simpa using p.nodup_names

theorem code_ne_empty (p : Problem) : p.code ≠ "" := by
  cases p <;> simp [code]

theorem message_ne_empty (p : Problem) : p.message ≠ "" := by
  have text (s : String) : toString s = s := rfl
  unfold message
  split <;> simp only [ne_eq, String.append_eq_empty_iff, text, String.reduceEq, and_false,
    false_and, not_false_eq_true]

theorem kind_name_mem (p : Problem) :
    p.kind.name ∈ ["not_pe", "malformed_directory", "ambiguous_layout"] := by
  cases p.kind <;> decide

/-- A record begins with a code, a message and a kind. -/
def Renders (p : Problem) : Prop :=
  ∃ code message kind details,
    p.record = .record
      ([("code", .text code), ("message", .text message), ("kind", .text kind)] ++ details) ∧
    code ≠ "" ∧ message ≠ "" ∧ kind ∈ ["not_pe", "malformed_directory", "ambiguous_layout"]

theorem renders (p : Problem) : p.Renders :=
  ⟨p.code, p.message, p.kind.name, p.details, p.record_eq, p.code_ne_empty, p.message_ne_empty,
    p.kind_name_mem⟩

end Problem

/-- No malformed input raises outside the signatures: any bytes are loaded in any mode under any
limits, and after any accesses every access that leaves the signatures alone has an answer. None at
all uses an operation outside its domain, and whatever problem is noted on the way has a code, a
message and one of three kinds. -/
theorem malformed_input_never_raises (data : Bytes) (mode : ScanMode) (limits : Limits)
    (reader : SignatureReader) :
    ∃ i, Image.load data mode limits reader = .ok i ∧ ∀ past : List Query,
      (∀ q, .signatures ∉ i.asks q → q.ofPart = false →
        ∃ v, (i.ask q (i.after past)).1 = .ok v) ∧
      (∀ q m, (i.ask q (i.after past)).1 ≠ .error (.misuse m)) ∧
      ∀ p ∈ (i.after past).problems, p.Renders :=
  ⟨_, Image.load_eq data mode limits reader, fun past =>
    ⟨fun _ untouched whole => (ask_settles _ past whole).answers fun asked => absurd asked untouched,
      fun q m => ask_proper _ past q m, fun p _ => p.renders⟩⟩

/-- Limits below zero. -/
def limitsBelowZero : Limits :=
  { maxImportFunctions := -1, maxExports := -1, maxResourceNodes := -1, maxVersionInfoSize := -1,
    maxRichSearch := -1 }

/-- The beginning of a library under limits below zero, after all of it has been read: the imports,
exports, resources, tools and debug records each give problems, and still have answers. -/
theorem cut_library_answers :
    ∃ i, Image.load libraryBeginning .file limitsBelowZero = .ok i ∧ i.isPe ∧
      i.readImports.1 = ⟨[⟨"k", []⟩]⟩ ∧
      (i.after [.analyze]).problems =
        [.dllNameUnreadable 0x1096, .tooManyExportedFunctions 2 (-1), .tooManyExportedNames 2 (-1),
          .resourcesUnmappable 0x1084, .richSearchClamped (-1) 0x40, .debugDirectoryTruncated 1] ∧
      (∀ p ∈ (i.after [.analyze]).problems, p.Renders) ∧
      ∀ q ∈ [Query.imphash, .fact .exportTable, .fact .resourceIndex, .fact .versionInfo,
          .fact .richSignature, .fact .pdbPath, .calculatedChecksum, .offset (-1)],
        ∃ v, (i.ask q (i.after [.analyze])).1 = .ok v := by
  obtain ⟨i, loaded, reading⟩ :=
    malformed_input_never_raises libraryBeginning .file limitsBelowZero .standard
  obtain ⟨answers, -, renders⟩ := reading [.analyze]
  have read := Image.eq_read_of_load loaded
  refine ⟨i, loaded, ?isPe, ?imports, ?problems, renders,
    fun q asked => answers q ?untouched ?whole⟩
  case isPe | imports =>
    rw [read]
    decide +kernel
  case problems =>
    rw [(tracks_after i [.analyze]).problems, read]
    decide +kernel
  case untouched | whole =>
    simp only [List.mem_cons, List.not_mem_nil, or_false] at asked
    obtain rfl | rfl | rfl | rfl | rfl | rfl | rfl | rfl := asked <;>
      simp [Image.asks, Fact.asks, Query.ofPart]

end PeFacts
