import PeFacts.Guarded.Export
import PeFacts.Proofs.Places
import PeFacts.Proofs.Stored.Field

/-!
# Export tables

Each of the two tables of an export directory is read slot by slot, up to the first slot that is not
there. Which slots a table has is said without the reading (`SlotTable.Has`, `SlotTable.EndsBefore`),
and a list of what is read enumerates what the slots give, in their order (`Enumerates`). The slots
read are those the table has (`SlotTable.found?_eq_some`), and all four lists, of ordinals, of names
and of what is reported on either table, are picked from them. Main result:
`export_tables_are_read_completely`.
-/

namespace PeFacts

namespace ExportTable

variable {data : Bytes} {sections : SectionTable} {limits : Limits} {limit : Int}

/-! ## Slots -/

/-- A table of slots as a directory announces it. -/
structure SlotTable where
  rva : Nat
  announced : Nat

/-- The table of addresses that a directory announces. -/
def addresses (data : Bytes) (off : Nat) : SlotTable :=
  ⟨data.number (off + 28) 4, data.number (off + 20) 4⟩

/-- The table of names that a directory announces. -/
def nameSlots (data : Bytes) (off : Nat) : SlotTable :=
  ⟨data.number (off + 32) 4, data.number (off + 24) 4⟩

/-- Reading the table comes to its slot `i`: it is announced and allowed, the table has a place in the
buffer, which the address zero does not give it, and all slots before are readable. -/
structure SlotTable.ComesTo (table : SlotTable) (data : Bytes) (sections : SectionTable) (limit : Int)
    (start i : Nat) : Prop where
  allowed : (i : Int) < min (table.announced : Int) limit
  given : table.rva ≠ 0
  position : sections.offset? table.rva = some start
  before : ∀ j < i, (data.u32? (start + 4 * j)).isSome

/-- The slot `i` of the table is readable, and all before it are. -/
def SlotTable.Has (table : SlotTable) (data : Bytes) (sections : SectionTable) (limit : Int)
    (i slot : Nat) : Prop :=
  ∃ start, table.ComesTo data sections limit start i ∧ data.u32? (start + 4 * i) = some slot

/-- The slot `i` of the table is the first that is not readable. -/
def SlotTable.EndsBefore (table : SlotTable) (data : Bytes) (sections : SectionTable) (limit : Int)
    (i : Nat) : Prop :=
  ∃ start, table.ComesTo data sections limit start i ∧ data.u32? (start + 4 * i) = none

/-- A name stands at an address: a text that is not empty. -/
def NameAt (data : Bytes) (sections : SectionTable) (limits : Limits) (rva : Nat) (name : String) :
    Prop :=
  (∃ off, sections.offset? rva = some off ∧ data.TextAt off limits.maxNameLength name) ∧ name ≠ ""

theorem name?_eq_some_iff (forward : 0 ≤ limits.maxNameLength) {rva : Nat} {name : String} :
    name? data sections limits rva = some name ↔ NameAt data sections limits rva name := by
  simp [name?, text?, Option.filter_eq_some_iff, Option.bind_eq_some_iff,
    Bytes.cString?_eq_some_iff forward, NameAt]

theorem name?_eq_none_iff (forward : 0 ≤ limits.maxNameLength) {rva : Nat} :
    name? data sections limits rva = none ↔ ¬ ∃ name, NameAt data sections limits rva name := by
  simp only [← name?_eq_some_iff forward, ← Option.isSome_iff_exists, Option.not_isSome_iff_eq_none]

theorem u32?_isSome_iff {off : Nat} : (data.u32? off).isSome ↔ off + 4 ≤ data.size := by
  unfold Bytes.u32? Bytes.number?
  split
  next room => simpa using Bytes.holds_iff.1 room
  next short => simpa [Bytes.holds_iff] using short

theorem lt_clampCount_iff {announced i : Nat} :
    i < (clampCount announced limit).1 ↔ (i : Int) < min (announced : Int) limit := by
  unfold clampCount
  split <;> dsimp only <;> omega

theorem getElem?_slots {off count i : Nat} :
    (slots data off count)[i]? = if i < count then data.u32? (off + 4 * i) else none := by
  by_cases room : off + 4 * i + 4 ≤ data.size
  · have there : data.u32? (off + 4 * i) = some (data.number (off + 4 * i) 4) :=
      if_pos (Bytes.holds_iff.2 room)
    by_cases announced : i < count
    · rw [if_pos announced, there, slots, List.getElem?_map, List.getElem?_range (by omega)]
      rfl
    · rw [if_neg announced, slots, List.getElem?_map,
        List.getElem?_eq_none (by rw [List.length_range]; omega)]
      rfl
  · have short : data.u32? (off + 4 * i) = none :=
      Option.not_isSome_iff_eq_none.1 (mt u32?_isSome_iff.1 room)
    rw [short, ite_self, slots, List.getElem?_map,
      List.getElem?_eq_none (by rw [List.length_range]; omega)]
    rfl

theorem length_slots {off count : Nat} :
    (slots data off count).length = min count ((data.size - off) / 4) := by
  rw [slots, List.length_map, List.length_range]

namespace SlotTable

variable {table : SlotTable}

/-- The slots of the table that are read. -/
def found? (table : SlotTable) (data : Bytes) (sections : SectionTable) (limit : Int) :
    Option (List Nat) :=
  tableSlots? data sections table.rva (clampCount table.announced limit).1

theorem ComesTo.found? {start i : Nat} (h : table.ComesTo data sections limit start i) :
    table.found? data sections limit = some (slots data start (clampCount table.announced limit).1) := by
  rw [SlotTable.found?, tableSlots?, if_neg h.given, h.position]
  rfl

theorem comesTo_of_found? {found : List Nat} (there : table.found? data sections limit = some found) :
    ∃ start, found = slots data start (clampCount table.announced limit).1 ∧
      ∀ i, table.ComesTo data sections limit start i ↔
        i < (clampCount table.announced limit).1 ∧ i ≤ found.length := by
  unfold SlotTable.found? tableSlots? at there
  split at there
  · cases there
  next given =>
    obtain ⟨start, position, rfl⟩ := Option.map_eq_some_iff.1 there
    refine ⟨start, rfl, fun i => ?_⟩
    rw [length_slots, lt_clampCount_iff]
    constructor
    · intro h
      refine ⟨h.allowed, ?_⟩
      have below := lt_clampCount_iff.2 h.allowed
      cases i with
      | zero => exact Nat.zero_le _
      | succ i =>
        have last := u32?_isSome_iff.1 (h.before i (Nat.lt_succ_self i))
        omega
    · rintro ⟨allowed, inside⟩
      exact ⟨allowed, given, position, fun j hj => u32?_isSome_iff.2 (by omega)⟩

/-- The slots that are read are those the table has, and the table ends before the one after them if
that one is still announced and allowed. -/
theorem found?_eq_some {found : List Nat} (there : table.found? data sections limit = some found) :
    (∀ i slot, found[i]? = some slot ↔ table.Has data sections limit i slot) ∧
      ∀ i, table.EndsBefore data sections limit i ↔
        found.length < (clampCount table.announced limit).1 ∧ i = found.length := by
  obtain ⟨start, rfl, comes⟩ := comesTo_of_found? there
  -- The place of the table is that of any of its slots.
  have same {other i : Nat} (h : table.ComesTo data sections limit other i) : other = start := by
    have first := (comes 0).2 ⟨by have := lt_clampCount_iff.2 h.allowed; omega, Nat.zero_le _⟩
    exact Option.some.inj (h.position.symm.trans first.position)
  have read {i : Nat} (announced : i < (clampCount table.announced limit).1) :
      (slots data start (clampCount table.announced limit).1)[i]? = data.u32? (start + 4 * i) := by
    rw [getElem?_slots, if_pos announced]
  constructor
  · intro i slot
    constructor
    · intro at_place
      obtain ⟨inside, -⟩ := List.getElem?_eq_some_iff.1 at_place
      have announced : i < (clampCount table.announced limit).1 := by
        rw [length_slots] at inside
        omega
      exact ⟨start, (comes i).2 ⟨announced, Nat.le_of_lt inside⟩, read announced ▸ at_place⟩
    · rintro ⟨other, h, slot_eq⟩
      obtain rfl := same h
      rw [read ((comes i).1 h).1, slot_eq]
  · intro i
    constructor
    · rintro ⟨other, h, missing⟩
      obtain rfl := same h
      obtain ⟨announced, inside⟩ := (comes i).1 h
      have outside := List.getElem?_eq_none_iff.1 ((read announced).trans missing)
      omega
    · rintro ⟨announced, rfl⟩
      refine ⟨start, (comes _).2 ⟨announced, Nat.le_refl _⟩, ?_⟩
      rw [← read announced]
      exact List.getElem?_eq_none (Nat.le_refl _)

theorem not_comesTo (missing : table.found? data sections limit = none) {start i : Nat} :
    ¬ table.ComesTo data sections limit start i := by
  intro h
  rw [h.found?] at missing
  cases missing

/-- The readable slots of the table: none where it has no place. -/
def readable (table : SlotTable) (data : Bytes) (sections : SectionTable) (limit : Int) : List Nat :=
  (table.found? data sections limit).getD []

theorem getElem?_readable {i slot : Nat} :
    (table.readable data sections limit)[i]? = some slot ↔ table.Has data sections limit i slot := by
  cases there : table.found? data sections limit with
  | some found =>
    rw [readable, there]
    exact (found?_eq_some there).1 i slot
  | none =>
    rw [readable, there]
    constructor
    · nofun
    · rintro ⟨start, h, -⟩
      exact absurd h (not_comesTo there)

/-- What is reported when the table ends before a slot that is announced and allowed. -/
def ending (table : SlotTable) (data : Bytes) (sections : SectionTable) (limit : Int)
    (problem : Nat → Problem) : List Problem :=
  (table.found? data sections limit).elim [] fun found =>
    if found.length < (clampCount table.announced limit).1 then [problem found.length] else []

theorem enumerates_ending (problem : Nat → Problem) :
    Enumerates (fun i p => table.EndsBefore data sections limit i ∧ p = problem i)
      (table.ending data sections limit problem) := by
  cases there : table.found? data sections limit with
  | none =>
    rw [ending, there]
    refine enumerates_nil fun i p => ?_
    rintro ⟨⟨start, h, -⟩, -⟩
    exact not_comesTo there h
  | some found =>
    have ends := (found?_eq_some there).2
    rw [ending, there, Option.elim_some]
    split
    next short =>
      refine (enumerates_singleton found.length (problem found.length)).of_iff fun i p => ?_
      rw [ends]
      constructor
      · rintro ⟨rfl, rfl⟩
        exact ⟨⟨short, rfl⟩, rfl⟩
      · rintro ⟨⟨-, rfl⟩, rfl⟩
        exact ⟨rfl, rfl⟩
    next whole =>
      refine enumerates_nil fun i p => ?_
      rintro ⟨h, -⟩
      exact whole ((ends i).1 h).1

theorem length_ending_le (problem : Nat → Problem) :
    (table.ending data sections limit problem).length ≤ 1 := by
  unfold ending
  cases table.found? data sections limit with
  | none => exact Nat.zero_le _
  | some found =>
    rw [Option.elim_some]
    split
    · exact Nat.le_refl 1
    · exact Nat.zero_le 1

end SlotTable

/-! ## Codes -/

/-- All problems of a list have one of the codes. -/
def Coded (codes : List String) (problems : List Problem) : Prop := ∀ p ∈ problems, p.code ∈ codes

variable {codes : List String} {problems : List Problem} {code : String}

theorem Coded.filter_self (h : Coded [code] problems) :
    problems.filter (·.code == code) = problems := by
  rw [List.filter_eq_self]
  intro p hp
  exact beq_iff_eq.2 (List.mem_singleton.1 (h p hp))

theorem Coded.filter_eq_nil (h : Coded codes problems) (other : code ∉ codes) :
    problems.filter (·.code == code) = [] := by
  rw [List.filter_eq_nil_iff]
  intro p hp same
  exact other (beq_iff_eq.1 same ▸ h p hp)

theorem coded_if {p : Problem} (h : p.code ∈ codes) (c : Prop) [Decidable c] :
    Coded codes (if c then [p] else []) := by
  intro q hq
  split at hq
  · exact List.mem_singleton.1 hq ▸ h
  · cases hq

theorem Coded.concat {p : Problem} (h : Coded codes problems) (hp : p.code ∈ codes) :
    Coded codes (problems ++ [p]) := by
  intro q hq
  rcases List.mem_append.1 hq with before | last
  · exact h q before
  · exact List.mem_singleton.1 last ▸ hp

theorem SlotTable.coded_ending {table : SlotTable} (problem : Nat → Problem)
    (code_eq : ∀ i, (problem i).code = code) :
    Coded [code] (table.ending data sections limit problem) := by
  unfold SlotTable.ending
  cases table.found? data sections limit with
  | none => exact nofun
  | some found =>
    rw [Option.elim_some]
    exact coded_if (List.mem_singleton.2 (code_eq found.length)) _

/-! ## The two tables -/

variable {table : SlotTable}

/-- A table that announces nothing has no slots and does not end early. -/
theorem readable_of_unannounced (nothing : table.announced = 0) :
    table.readable data sections limit = [] ∧
      ∀ problem, table.ending data sections limit problem = [] := by
  have none_allowed : (clampCount table.announced limit).1 = 0 := by
    rw [nothing]
    unfold clampCount
    split <;> dsimp only
    omega
  unfold SlotTable.readable SlotTable.ending
  cases there : table.found? data sections limit with
  | none => exact ⟨rfl, fun _ => rfl⟩
  | some found =>
    obtain ⟨start, rfl, -⟩ := SlotTable.comesTo_of_found? there
    rw [none_allowed, Guarded.slots_zero]
    exact ⟨rfl, fun _ => rfl⟩

theorem readOrdinals_eq (base : Nat) :
    ∃ noted, Coded ["E_PE_EXPORT_TOO_MANY_FUNCTIONS", "E_PE_EXPORT_FUNCTIONS_UNMAPPABLE"] noted ∧
      readOrdinals data sections base table.announced table.rva limit =
        (Guarded.ordinalsOf base 0 (table.readable data sections limit),
          noted ++ table.ending data sections limit .exportAddressesTruncated) := by
  unfold readOrdinals
  split
  next nothing =>
    obtain ⟨no_slots, no_ending⟩ := readable_of_unannounced nothing
    rw [no_slots, no_ending]
    exact ⟨[], nofun, rfl⟩
  next =>
    have clamped : Coded ["E_PE_EXPORT_TOO_MANY_FUNCTIONS", "E_PE_EXPORT_FUNCTIONS_UNMAPPABLE"]
        (if (clampCount table.announced limit).2 then
          [.tooManyExportedFunctions table.announced limit] else []) :=
      coded_if (by simp [Problem.code]) _
    dsimp only
    rw [← SlotTable.found?, SlotTable.readable, SlotTable.ending]
    cases table.found? data sections limit with
    | none =>
      refine ⟨_, clamped.concat (p := .exportAddressesUnmappable table.rva) ?_, ?_⟩
      · simp [Problem.code]
      · exact congrArg (Prod.mk []) (List.append_nil _).symm
    | some found => exact ⟨_, clamped, rfl⟩

theorem readNames_eq (ordinalsRva : Nat) :
    ∃ noted, Coded ["E_PE_EXPORT_TOO_MANY_NAMES", "E_PE_EXPORT_TABLES_UNMAPPABLE"] noted ∧
      readNames data sections limits table.announced table.rva ordinalsRva =
        ((table.readable data sections limits.maxExports).filterMap (name? data sections limits),
          noted ++ (Guarded.unreadableOf data sections limits
            (table.readable data sections limits.maxExports) ++
            table.ending data sections limits.maxExports .exportNamesTruncated)) := by
  unfold readNames
  split
  next nothing =>
    obtain ⟨no_slots, no_ending⟩ := readable_of_unannounced nothing
    rw [no_slots, no_ending]
    exact ⟨[], nofun, rfl⟩
  next =>
    have clamped : Coded ["E_PE_EXPORT_TOO_MANY_NAMES", "E_PE_EXPORT_TABLES_UNMAPPABLE"]
        (if (clampCount table.announced limits.maxExports).2 then
          [.tooManyExportedNames table.announced limits.maxExports] else []) :=
      coded_if (by simp [Problem.code]) _
    dsimp only
    rw [← SlotTable.found?, SlotTable.readable, SlotTable.ending]
    cases table.found? data sections limits.maxExports with
    | none =>
      refine ⟨_, clamped.concat (p := .exportNamesUnmappable table.rva ordinalsRva) ?_, ?_⟩
      · simp [Problem.code]
      · exact congrArg (Prod.mk []) (List.append_nil _).symm
    | some found =>
      refine ⟨_, clamped, ?_⟩
      dsimp only
      rw [List.append_assoc, List.filterMap_map, List.filterMap_map]
      rfl

/-- What is read of the export directory at `off`. -/
structure ReadsExports (data : Bytes) (sections : SectionTable) (limits : Limits) (off : Nat)
    (t : ExportTable) (problems : List Problem) : Prop where
  functionCount : data.u32? (off + 20) = some t.functionCount
  increasing : t.ordinals.Pairwise (· < ·)
  /-- The ordinals are those of the slots that hold an address. -/
  ordinals : Enumerates (fun i n => ∃ slot ≠ 0,
    (addresses data off).Has data sections limits.maxExports i slot ∧
      n = data.number (off + 16) 4 + i) t.ordinals
  /-- The names are those the slots lead to. -/
  names : Enumerates (fun i name => ∃ slot,
    (nameSlots data off).Has data sections limits.maxExports i slot ∧
      NameAt data sections limits slot name) t.names
  /-- A slot that leads to no name is reported. -/
  skipped : Enumerates (fun i p => ∃ slot,
    (nameSlots data off).Has data sections limits.maxExports i slot ∧
      (¬ ∃ name, NameAt data sections limits slot name) ∧ p = .exportNameUnreadable slot)
    (problems.filter (·.code == "E_PE_EXPORT_NAME_UNREADABLE"))
  /-- The end of either table is reported once, if it comes before the announced one. -/
  addressesEnd : Enumerates (fun i p =>
    (addresses data off).EndsBefore data sections limits.maxExports i ∧
      p = .exportAddressesTruncated i)
    (problems.filter (·.code == "E_PE_EXPORT_FUNCTIONS_TRUNCATED"))
  namesEnd : Enumerates (fun i p =>
    (nameSlots data off).EndsBefore data sections limits.maxExports i ∧ p = .exportNamesTruncated i)
    (problems.filter (·.code == "E_PE_EXPORT_NAMES_TRUNCATED"))
  once : (problems.filter (·.code == "E_PE_EXPORT_FUNCTIONS_TRUNCATED")).length ≤ 1 ∧
    (problems.filter (·.code == "E_PE_EXPORT_NAMES_TRUNCATED")).length ≤ 1
  byOrdinal : ∀ n : Int, t.exports (.ordinal n) = true ↔ ∃ m ∈ t.ordinals, (m : Int) = n
  byName : ∀ s, t.exports (.name s) = true ↔ ∃ name ∈ t.names, lowerText name = lowerText s

/-- What is read of an export directory that is there, before the parts are told apart. -/
theorem read_of_room {off rva : Nat} (located : sections.offset? rva = some off)
    (room : off + directorySize ≤ data.size) :
    ∃ t : ExportTable, t.functionCount = data.number (off + 20) 4 ∧
      t.ordinals = Guarded.ordinalsOf (data.number (off + 16) 4) 0
        ((addresses data off).readable data sections limits.maxExports) ∧
      t.names = ((nameSlots data off).readable data sections limits.maxExports).filterMap
        (name? data sections limits) ∧
      ∃ dllNoted addressesNoted namesNoted, Coded ["E_PE_EXPORT_DLLNAME_UNREADABLE"] dllNoted ∧
        Coded ["E_PE_EXPORT_TOO_MANY_FUNCTIONS", "E_PE_EXPORT_FUNCTIONS_UNMAPPABLE"]
          addressesNoted ∧
        Coded ["E_PE_EXPORT_TOO_MANY_NAMES", "E_PE_EXPORT_TABLES_UNMAPPABLE"] namesNoted ∧
        read data sections limits rva = (t, dllNoted ++
          (addressesNoted ++ (addresses data off).ending data sections limits.maxExports
            .exportAddressesTruncated) ++
          (namesNoted ++ (Guarded.unreadableOf data sections limits
            ((nameSlots data off).readable data sections limits.maxExports) ++
            (nameSlots data off).ending data sections limits.maxExports .exportNamesTruncated))) := by
  obtain ⟨addressesNoted, coded_addresses, ordinals⟩ := @readOrdinals_eq data sections
    limits.maxExports (addresses data off) (data.number (off + 16) 4)
  obtain ⟨namesNoted, coded_names, names⟩ := @readNames_eq data sections limits
    (nameSlots data off) (data.number (off + 36) 4)
  dsimp only [addresses] at ordinals
  dsimp only [nameSlots] at names
  have there : (!data.holds off directorySize) = false := by
    rw [Bytes.holds_iff.2 room]
    rfl
  rw [read, located]
  dsimp only
  rw [there, if_neg Bool.false_ne_true, ordinals, names]
  have dllNoted (c : Prop) [Decidable c] (nameRva : Nat) : Coded ["E_PE_EXPORT_DLLNAME_UNREADABLE"]
      (if c then [.exportDllNameUnreadable nameRva] else []) :=
    coded_if (List.mem_singleton_self _) c
  exact ⟨_, rfl, rfl, rfl, _, _, _, dllNoted _ _, coded_addresses, coded_names, rfl⟩

theorem coded_unreadableOf (found : List Nat) :
    Coded ["E_PE_EXPORT_NAME_UNREADABLE"] (Guarded.unreadableOf data sections limits found) := by
  intro p hp
  obtain ⟨slot, -, noted⟩ := List.mem_filterMap.1 hp
  split at noted
  · rw [← Option.some.inj noted]
    exact List.mem_singleton_self _
  · cases noted

/-- What is reported on slots and on the ends of the tables is told apart by the codes. -/
theorem filter_reported {dll addresses' addressesEnd names' skipped namesEnd : List Problem}
    (coded_dll : Coded ["E_PE_EXPORT_DLLNAME_UNREADABLE"] dll)
    (coded_addresses : Coded ["E_PE_EXPORT_TOO_MANY_FUNCTIONS", "E_PE_EXPORT_FUNCTIONS_UNMAPPABLE"]
      addresses')
    (coded_addressesEnd : Coded ["E_PE_EXPORT_FUNCTIONS_TRUNCATED"] addressesEnd)
    (coded_names : Coded ["E_PE_EXPORT_TOO_MANY_NAMES", "E_PE_EXPORT_TABLES_UNMAPPABLE"] names')
    (coded_skipped : Coded ["E_PE_EXPORT_NAME_UNREADABLE"] skipped)
    (coded_namesEnd : Coded ["E_PE_EXPORT_NAMES_TRUNCATED"] namesEnd) :
    let problems := dll ++ (addresses' ++ addressesEnd) ++ (names' ++ (skipped ++ namesEnd))
    problems.filter (·.code == "E_PE_EXPORT_FUNCTIONS_TRUNCATED") = addressesEnd ∧
      problems.filter (·.code == "E_PE_EXPORT_NAME_UNREADABLE") = skipped ∧
      problems.filter (·.code == "E_PE_EXPORT_NAMES_TRUNCATED") = namesEnd := by
  simp only [List.filter_append]
  refine ⟨?_, ?_, ?_⟩
  · rw [coded_dll.filter_eq_nil (by simp), coded_addresses.filter_eq_nil (by simp),
      coded_addressesEnd.filter_self, coded_names.filter_eq_nil (by simp),
      coded_skipped.filter_eq_nil (by simp), coded_namesEnd.filter_eq_nil (by simp)]
    simp
  · rw [coded_dll.filter_eq_nil (by simp), coded_addresses.filter_eq_nil (by simp),
      coded_addressesEnd.filter_eq_nil (by simp), coded_names.filter_eq_nil (by simp),
      coded_skipped.filter_self, coded_namesEnd.filter_eq_nil (by simp)]
    simp
  · rw [coded_dll.filter_eq_nil (by simp), coded_addresses.filter_eq_nil (by simp),
      coded_addressesEnd.filter_eq_nil (by simp), coded_names.filter_eq_nil (by simp),
      coded_skipped.filter_eq_nil (by simp), coded_namesEnd.filter_self]
    simp

theorem enumerates_ordinals (base : Nat) :
    Enumerates (fun i n => ∃ slot ≠ 0, table.Has data sections limit i slot ∧ n = base + i)
      (Guarded.ordinalsOf base 0 (table.readable data sections limit)) := by
  refine (enumerates_filterMap_zipIdx (table.readable data sections limit) fun slot i =>
    if slot = 0 then none else some (base + i)).of_iff fun i n => ?_
  constructor
  · rintro ⟨slot, there, used⟩
    split at used
    · cases used
    next given => exact ⟨slot, given, SlotTable.getElem?_readable.1 there, (Option.some.inj used).symm⟩
  · rintro ⟨slot, given, there, rfl⟩
    exact ⟨slot, SlotTable.getElem?_readable.2 there, if_neg given⟩

theorem enumerates_names (forward : 0 ≤ limits.maxNameLength) :
    Enumerates (fun i name => ∃ slot, table.Has data sections limit i slot ∧
        NameAt data sections limits slot name)
      ((table.readable data sections limit).filterMap (name? data sections limits)) := by
  refine (enumerates_filterMap _ _).of_iff fun i name => ?_
  simp only [SlotTable.getElem?_readable, name?_eq_some_iff forward]

theorem enumerates_unreadableOf (forward : 0 ≤ limits.maxNameLength) :
    Enumerates (fun i p => ∃ slot, table.Has data sections limit i slot ∧
        (¬ ∃ name, NameAt data sections limits slot name) ∧ p = .exportNameUnreadable slot)
      (Guarded.unreadableOf data sections limits (table.readable data sections limit)) := by
  refine (enumerates_filterMap _ _).of_iff fun i p => exists_congr fun slot => ?_
  rw [SlotTable.getElem?_readable, ← name?_eq_none_iff forward, ← Option.isNone_iff_eq_none]
  refine and_congr_right fun _ => ?_
  constructor
  · intro noted
    split at noted
    next missing => exact ⟨missing, (Option.some.inj noted).symm⟩
    · cases noted
  · rintro ⟨missing, rfl⟩
    exact if_pos missing

/-- The tables of an export directory that is there are read completely: every slot up to the first
one that is not readable gives its ordinal or its name, and what gives no name is reported. -/
theorem export_tables_are_read_completely {data : Bytes} {sections : SectionTable} {limits : Limits}
    {rva off : Nat} (located : sections.offset? rva = some off)
    (room : off + directorySize ≤ data.size) (forward : 0 ≤ limits.maxNameLength) :
    ReadsExports data sections limits off (read data sections limits rva).1
        (read data sections limits rva).2 ∧
      Guarded.Yields sections (Guarded.exports data sections limits rva)
        (read data sections limits rva) := by
  refine ⟨?_, Guarded.yields_exports rva⟩
  obtain ⟨t, count, ordinals, names, dllNoted, addressesNoted, namesNoted, coded_dll, coded_addresses,
    coded_names, read_eq⟩ := @read_of_room data sections limits off rva located room
  obtain ⟨addressesEnd, skipped, namesEnd⟩ := filter_reported coded_dll coded_addresses
    (SlotTable.coded_ending .exportAddressesTruncated fun _ => rfl) coded_names
    (coded_unreadableOf _) (SlotTable.coded_ending .exportNamesTruncated fun _ => rfl)
  have listed : Enumerates _ t.ordinals := ordinals ▸ enumerates_ordinals (data.number (off + 16) 4)
  rw [read_eq]
  exact {
    functionCount := by
      rw [count]
      exact if_pos (Bytes.holds_iff.2 (by unfold directorySize at room; omega))
    increasing := by
      refine listed.increasing (data.number (off + 16) 4) fun i n => ?_
      rintro ⟨-, -, -, rfl⟩
      rfl
    ordinals := listed
    names := names ▸ enumerates_names forward
    skipped := skipped.symm ▸ enumerates_unreadableOf forward
    addressesEnd := addressesEnd.symm ▸ SlotTable.enumerates_ending _
    namesEnd := namesEnd.symm ▸ SlotTable.enumerates_ending _
    once := by
      rw [addressesEnd, namesEnd]
      exact ⟨SlotTable.length_ending_le _, SlotTable.length_ending_le _⟩
    byOrdinal := fun n => exports_ordinal_iff
    byName := fun s => exports_name_iff }

/-- A directory that announces four addresses and three names where three of each are allowed, with a
name and a slot that leads to none before the end of the buffer. -/
def shortDirectory : Bytes :=
  fieldBytes (([0, 0, 0, 0, 5, 4, 3, 0x102C, 0x103C, 0] ++ [0x66] ++ [0x10, 0, 0x20, 0x30] ++
    [0x1028, 0x9000]).map (⟨4, ·⟩))

/-- A section that holds the whole directory. -/
def shortSections : SectionTable :=
  { sections := [⟨0, ".edata", 68, 0x1000, 68, 0, 0, true⟩], length := 68 }

theorem short_directory_is_read :
    shortSections.offset? 0x1000 = some 0 ∧ 0 + directorySize ≤ shortDirectory.size ∧
      ReadsExports shortDirectory shortSections { maxExports := 3 } 0
        (read shortDirectory shortSections { maxExports := 3 } 0x1000).1
        (read shortDirectory shortSections { maxExports := 3 } 0x1000).2 ∧
      (read shortDirectory shortSections { maxExports := 3 } 0x1000).1.ordinals = [5, 7] ∧
      (read shortDirectory shortSections { maxExports := 3 } 0x1000).1.names = ["f"] ∧
      (read shortDirectory shortSections { maxExports := 3 } 0x1000).2 =
        [.tooManyExportedFunctions 4 3, .exportNameUnreadable 0x9000, .exportNamesTruncated 2] := by
  have located : shortSections.offset? 0x1000 = some 0 := by decide
  have room : 0 + directorySize ≤ shortDirectory.size := by decide
  refine ⟨located, room, ?_, by decide +kernel, by decide +kernel, by decide +kernel⟩
  exact (export_tables_are_read_completely located room (by decide)).1

end ExportTable

end PeFacts
