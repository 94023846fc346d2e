import Mathlib
import PeFacts.Guarded.Resource
import PeFacts.Proofs.Stored

/-!
# Resource trees as they are laid out

A `ResourceTree` is a tree of three levels together with the place of each directory, and
`Source.TreeAt` says that the buffer holds it. Keys, data entries and directories stand wherever they
like; only the directories keep apart. The walk visits such a tree in the order in which it is
declared and finds every leaf once: `laid_out_resources_are_read`. What one directory does to the walk
is `visit_laidOut`; `Walks` puts such visits one after the other.
-/

namespace PeFacts

/-- A directory of the tree, `offset` bytes after the root, and its entries: keys and what each leads
to. -/
structure ResourceDirectory (κ α : Type) where
  offset : Nat
  entries : List (κ × α)

/-- What a data entry says. -/
structure ResourceData where
  rva : Nat
  size : Nat
  codepage : Nat

/-- The data of one resource, by language. -/
abbrev LanguageDirectory := ResourceDirectory Nat ResourceData

/-- The resources of one type, by name. -/
abbrev NameDirectory := ResourceDirectory ResourceKey LanguageDirectory

/-- The resources, by type. -/
abbrev ResourceTree := ResourceDirectory ResourceKey NameDirectory

/-- The leaf that a data entry stands for, with the keys that lead to it. -/
def ResourceData.leaf (data : ResourceData) (sections : SectionTable) (type name : ResourceKey)
    (language : Nat) : ResourceEntry where
  type
  name
  language? := some language
  rva := data.rva
  size := data.size
  codepage := data.codepage
  offset? := sections.offset? data.rva

/-- The leaves of one resource. -/
def LanguageDirectory.leaves (languages : LanguageDirectory) (sections : SectionTable)
    (type name : ResourceKey) : List ResourceEntry :=
  languages.entries.map fun e => e.2.leaf sections type name e.1

namespace NameDirectory

variable (names : NameDirectory)

/-- Where the directory and those below it stand. -/
def directories : List Nat := names.offset :: names.entries.map (·.2.offset)

/-- How many entries the directory and those below it have. -/
def entryCount : Nat :=
  names.entries.length + (names.entries.map fun e => e.2.entries.length).sum

/-- The leaves of one type. -/
def leaves (sections : SectionTable) (type : ResourceKey) : List ResourceEntry :=
  names.entries.flatMap fun e => e.2.leaves sections type e.1

end NameDirectory

namespace ResourceTree

variable (tree : ResourceTree)

/-- Where the directories of the tree stand, in the order in which they are declared. -/
def directories : List Nat := tree.offset :: tree.entries.flatMap fun e => e.2.directories

/-- How many entries the directories of the tree have in all. -/
def entryCount : Nat := tree.entries.length + (tree.entries.map fun e => e.2.entryCount).sum

/-- The leaves of the tree, in the order in which they are declared. -/
def leaves (sections : SectionTable) : List ResourceEntry :=
  tree.entries.flatMap fun e => e.2.leaves sections e.1

end ResourceTree

namespace ResourceIndex

namespace Source

variable {κ α : Type} (src : Source)

/-- What the number of an entry stands for: a number of 16 bits, or a marked offset at which a text
stands with its count. -/
inductive KeyFor : Nat → ResourceKey → Prop
  | id {n : Nat} (small : n < 0x10000) : KeyFor n ⟨some n, none⟩
  | name {pos : Nat} {text : String} (near : pos < highBit)
      (counted : src.data.u16? (src.base + pos) = some (utf16Length text))
      (stored : src.data.matchesAt (utf16Bytes text) (src.base + pos + 2))
      (short : (utf16Length text : Int) ≤ src.limits.maxNameLength) :
      KeyFor (highBit ||| pos) ⟨none, some text⟩

/-- A language is its number. -/
def LanguageFor (raw language : Nat) : Prop := raw = language ∧ language < 0x10000

/-- The entries stand one after the other from `off` on: numbers for their keys and for what they
lead to. -/
def EntriesAt (KeyIs : Nat → κ → Prop) (Leads : Nat → α → Prop) (off : Nat) :
    List (κ × α) → Prop
  | [] => True
  | (key, below) :: rest =>
    (∃ raw target, src.data.u32? off = some raw ∧ src.data.u32? (off + 4) = some target ∧
      KeyIs raw key ∧ Leads target below) ∧ EntriesAt KeyIs Leads (off + entrySize) rest

/-- The directory stands in the buffer. Its header counts the entries in two parts. -/
structure DirectoryAt (KeyIs : Nat → κ → Prop) (Leads : Nat → α → Prop)
    (d : ResourceDirectory κ α) : Prop where
  room : src.base + d.offset + directorySize ≤ src.data.size
  counted : src.data.number (src.base + d.offset + 12) 2 +
    src.data.number (src.base + d.offset + 14) 2 = d.entries.length
  entries : src.EntriesAt KeyIs Leads (src.base + d.offset + directorySize) d.entries

/-- The number leads to the directory: its offset, marked. -/
structure LeadsTo (Stands : ResourceDirectory κ α → Prop) (target : Nat)
    (d : ResourceDirectory κ α) : Prop where
  near : d.offset < highBit
  marked : target = highBit ||| d.offset
  stands : Stands d

/-- The number is the offset of the data entry. -/
structure DataAt (target : Nat) (data : ResourceData) : Prop where
  near : target < highBit
  rva : src.data.u32? (src.base + target) = some data.rva
  size : src.data.u32? (src.base + target + 4) = some data.size
  codepage : src.data.u32? (src.base + target + 8) = some data.codepage

/-- The languages of a resource stand in the buffer. -/
def LanguagesAt : LanguageDirectory → Prop := src.DirectoryAt LanguageFor src.DataAt

/-- The names of a type stand in the buffer. -/
def NamesAt : NameDirectory → Prop := src.DirectoryAt src.KeyFor (LeadsTo src.LanguagesAt)

/-- The tree stands in the buffer. -/
def TreeAt : ResourceTree → Prop := src.DirectoryAt src.KeyFor (LeadsTo src.NamesAt)

end Source

/-! ## What one directory does to the walk -/

/-- The walk after more directories, entries and leaves. -/
def Walk.past (w : Walk) (directories : List Nat) (count : Nat) (leaves : List ResourceEntry) :
    Walk :=
  { w with
    found := w.found ++ leaves.toArray
    entered := directories.reverse ++ w.entered
    budget := w.budget - count }

/-- The scan after more entries, which lead to more directories and leaves. -/
def Scan.past (s : Scan) (count : Nat) (below : List Pending) (leaves : List ResourceEntry) :
    Scan :=
  { s with walk := s.walk.past [] count leaves, below := s.below ++ below.toArray }

theorem Walk.past_nil (w : Walk) : w.past [] 0 [] = w := by
  simp [Walk.past]

theorem Walk.past_past (w : Walk) (directories directories' : List Nat) (count count' : Nat)
    (leaves leaves' : List ResourceEntry) :
    (w.past directories count leaves).past directories' count' leaves' =
      w.past (directories ++ directories') (count + count') (leaves ++ leaves') := by
  simp [Walk.past, Nat.sub_sub]

theorem Scan.past_nil (s : Scan) : s.past 0 [] [] = s := by
  simp [Scan.past, Walk.past_nil]

theorem Scan.past_past (s : Scan) (count count' : Nat) (below below' : List Pending)
    (leaves leaves' : List ResourceEntry) :
    (s.past count below leaves).past count' below' leaves' =
      s.past (count + count') (below ++ below') (leaves ++ leaves') := by
  simp [Scan.past, Walk.past_past]

variable {κ α : Type} {src : Source}

theorem or_highBit {n : Nat} (h : n < highBit) : highBit ||| n = highBit + n :=
  (Nat.two_pow_add_eq_or_of_lt (i := 31) h 1).symm

theorem Source.KeyFor.key {raw : Nat} {key : ResourceKey} (h : src.KeyFor raw key) :
    src.key raw = key := by
  unfold Source.key
  cases h with
  | id small =>
    rw [if_neg (by simp only [highBit]; omega), Nat.mod_eq_of_lt small]
  | name near counted stored short =>
    rw [or_highBit near, if_pos (Nat.le_add_right _ _), Nat.add_mod_left, Nat.mod_eq_of_lt near,
      Bytes.utf16Counted?_of_stored counted stored short]

theorem Source.LanguageFor.key {raw language : Nat} (h : LanguageFor raw language) :
    src.key raw = ⟨some language, none⟩ := by
  obtain ⟨rfl, small⟩ := h
  exact (Source.KeyFor.id small).key

/-- An entry that leads to a directory puts it behind those to visit. -/
theorem entry_leadsTo (p : Pending) {raw target : Nat} {key : ResourceKey}
    {Stands : ResourceDirectory κ α → Prop} {d : ResourceDirectory κ α} (keyed : src.key raw = key)
    (leads : Source.LeadsTo Stands target d) (s : Scan) :
    src.entry p raw target s = s.past 0 [p.below key d.offset] [] := by
  have near := leads.near
  have marked : highBit ≤ target := by
    rw [leads.marked, or_highBit near]
    exact Nat.le_add_right _ _
  have low : target % highBit = d.offset := by
    rw [leads.marked, or_highBit near, Nat.add_mod_left, Nat.mod_eq_of_lt near]
  simp [Source.entry, marked, low, keyed, Scan.past, Walk.past_nil]

/-- An entry of the last level is a leaf. -/
theorem entry_data (p : Pending) (level : p.level = languageLevel) {raw target language : Nat}
    {data : ResourceData} (keyed : Source.LanguageFor raw language) (stored : src.DataAt target data)
    (s : Scan) : src.entry p raw target s =
      s.past 0 [] [data.leaf src.sections p.type p.name language] := by
  have near := stored.near
  simp [Source.entry, Nat.not_le.2 near, level, Source.leaf?, stored.rva, stored.size,
    stored.codepage, keyed.key, Scan.past, Walk.past, Reading.keep, ResourceData.leaf]

/-- The entries of a directory do to a scan what each of them does, one after the other. -/
theorem entriesFrom_laidOut {KeyIs : Nat → κ → Prop} {Leads : Nat → α → Prop} {p : Pending}
    {below : κ × α → List Pending} {leaves : κ × α → List ResourceEntry}
    (step : ∀ raw target key a s, KeyIs raw key → Leads target a →
      src.entry p raw target s = s.past 0 (below (key, a)) (leaves (key, a)))
    {entries : List (κ × α)} {off : Nat} (laid : src.EntriesAt KeyIs Leads off entries) (index : Nat)
    {s : Scan} (enough : entries.length ≤ s.walk.budget) :
    src.entriesFrom p index off entries.length s =
      s.past entries.length (entries.flatMap below) (entries.flatMap leaves) := by
  induction entries generalizing off index s with
  | nil => exact s.past_nil.symm
  | cons e rest ih =>
    obtain ⟨⟨raw, target, first, second, keyed, leads⟩, laid⟩ := laid
    rw [List.length_cons] at enough ⊢
    have paid : { s with walk := { s.walk with budget := s.walk.budget - 1 } } = s.past 1 [] [] := by
      simp [Scan.past, Walk.past]
    rw [Source.entriesFrom, if_neg (by omega)]
    simp only [first, second, paid]
    rw [step raw target e.1 e.2 _ keyed leads, Scan.past_past, ih laid (index + 1), Scan.past_past]
    · rw [List.flatMap_cons, List.flatMap_cons, List.nil_append, List.nil_append]
      congr 1
      omega
    · simp only [Scan.past, Walk.past]
      omega

/-- Visiting a directory that was not entered before reads all its entries. -/
theorem visit_laidOut {KeyIs : Nat → κ → Prop} {Leads : Nat → α → Prop} {p : Pending}
    {below : κ × α → List Pending} {leaves : κ × α → List ResourceEntry}
    (step : ∀ raw target key a s, KeyIs raw key → Leads target a →
      src.entry p raw target s = s.past 0 (below (key, a)) (leaves (key, a)))
    {d : ResourceDirectory κ α} (laid : src.DirectoryAt KeyIs Leads d) (here : p.directory = d.offset)
    (shallow : (p.level : Int) < src.limits.maxResourceDepth) {w : Walk} (new : d.offset ∉ w.entered)
    (enough : d.entries.length ≤ w.budget) :
    src.visit p w = {
      walk := w.past [d.offset] d.entries.length (d.entries.flatMap leaves)
      below := (d.entries.flatMap below).toArray } := by
  have unentered : w.entered.contains d.offset = false := by simpa using new
  have room : src.data.holds (src.base + d.offset) directorySize = true := Bytes.holds_iff.2 laid.room
  unfold Source.visit
  rw [here, unentered]
  simp only [Bool.false_eq_true, if_false, room, Bool.not_true]
  rw [if_neg (by omega), laid.counted, entriesFrom_laidOut step laid.entries 0 (by exact enough)]
  simp [Scan.past, Walk.past]

/-! ## What a list of directories does to the walk -/

/-- Visiting the directories of a list, each followed by those below it, enters `directories`, takes
`count` entries and finds `leaves`, wherever none of these directories was entered before. -/
def Walks (src : Source) (pending : List Pending) (directories : List Nat) (count : Nat)
    (leaves : List ResourceEntry) : Prop :=
  ∀ fuel rest w, count ≤ w.budget → directories.Nodup → (∀ d ∈ directories, d ∉ w.entered) →
    src.visitAll (directories.length + fuel) (pending ++ rest) w =
      src.visitAll fuel rest (w.past directories count leaves)

namespace Walks

variable {pending pending' : List Pending} {directories directories' : List Nat}
  {count count' : Nat} {leaves leaves' : List ResourceEntry}

theorem nil : Walks src [] [] 0 [] := by
  intro fuel rest w _ _ _
  rw [Walk.past_nil, List.length_nil, Nat.zero_add, List.nil_append]

theorem append (first : Walks src pending directories count leaves)
    (second : Walks src pending' directories' count' leaves') :
    Walks src (pending ++ pending') (directories ++ directories') (count + count')
      (leaves ++ leaves') := by
  intro fuel rest w enough nodup new
  obtain ⟨nodup, nodup', apart⟩ := List.nodup_append.1 nodup
  have length : (directories ++ directories').length + fuel =
      directories.length + (directories'.length + fuel) := by
    rw [List.length_append, Nat.add_assoc]
  have later : ∀ d ∈ directories', d ∉ (w.past directories count leaves).entered := by
    intro d hd entered
    rcases List.mem_append.1 entered with now | before
    · exact apart d (List.mem_reverse.1 now) d hd rfl
    · exact new d (by simp [hd]) before
  have left : count' ≤ (w.past directories count leaves).budget := by
    simp only [Walk.past]
    omega
  rw [length, List.append_assoc,
    first _ _ w (by omega) nodup fun d hd => new d (by simp [hd]),
    second fuel rest _ left nodup' later, Walk.past_past]

theorem flatMap {α : Type} {xs : List α} {pending : α → List Pending} {directories : α → List Nat}
    {count : α → Nat} {leaves : α → List ResourceEntry}
    (each : ∀ x ∈ xs, Walks src (pending x) (directories x) (count x) (leaves x)) :
    Walks src (xs.flatMap pending) (xs.flatMap directories) (xs.map count).sum
      (xs.flatMap leaves) := by
  induction xs with
  | nil => exact nil
  | cons x xs ih =>
    simp only [List.flatMap_cons, List.map_cons, List.sum_cons]
    exact (each x (by simp)).append (ih fun y hy => each y (by simp [hy]))

/-- A directory is visited before those below it, which come next. -/
theorem directory {κ α : Type} {KeyIs : Nat → κ → Prop} {Leads : Nat → α → Prop} {p : Pending}
    (below : κ × α → List Pending) (here : κ × α → List ResourceEntry)
    (step : ∀ raw target key a s, KeyIs raw key → Leads target a →
      src.entry p raw target s = s.past 0 (below (key, a)) (here (key, a)))
    {d : ResourceDirectory κ α} (laid : src.DirectoryAt KeyIs Leads d) (at_d : p.directory = d.offset)
    (shallow : (p.level : Int) < src.limits.maxResourceDepth)
    (deeper : Walks src (d.entries.flatMap below) directories count leaves) :
    Walks src [p] (d.offset :: directories) (d.entries.length + count)
      (d.entries.flatMap here ++ leaves) := by
  intro fuel rest w enough nodup new
  obtain ⟨notBelow, nodup⟩ := List.nodup_cons.1 nodup
  have visited := visit_laidOut step laid at_d shallow (new d.offset (by simp)) (by omega)
  have next : ∀ o ∈ directories,
      o ∉ (w.past [d.offset] d.entries.length (d.entries.flatMap here)).entered := by
    intro o ho entered
    rcases List.mem_append.1 entered with now | before
    · have same : o = d.offset := by simpa using now
      exact notBelow (same ▸ ho)
    · exact new o (by simp [ho]) before
  have left : count ≤ (w.past [d.offset] d.entries.length (d.entries.flatMap here)).budget := by
    simp only [Walk.past]
    omega
  rw [List.length_cons, Nat.add_right_comm, List.singleton_append, Source.visitAll, visited]
  simp only [Bool.false_eq_true, if_false]
  rw [deeper fuel rest _ left nodup next, Walk.past_past, List.singleton_append]

end Walks

/-! ## The three levels -/

variable {src : Source}

theorem leads_of_mem {KeyIs : Nat → κ → Prop} {Leads : Nat → α → Prop} {entries : List (κ × α)}
    {off : Nat} (laid : src.EntriesAt KeyIs Leads off entries) {e : κ × α} (he : e ∈ entries) :
    ∃ target, Leads target e.2 := by
  induction entries generalizing off with
  | nil => cases he
  | cons first rest ih =>
    obtain ⟨⟨raw, target, -, -, -, leads⟩, laid⟩ := laid
    rcases List.mem_cons.1 he with rfl | later
    · exact ⟨target, leads⟩
    · exact ih laid later

theorem walks_languages {p : Pending} {languages : LanguageDirectory}
    (laid : src.LanguagesAt languages) (here : p.directory = languages.offset)
    (level : p.level = languageLevel) (deep : 3 ≤ src.limits.maxResourceDepth) :
    Walks src [p] [languages.offset] languages.entries.length
      (languages.leaves src.sections p.type p.name) := by
  have none_below : languages.entries.flatMap (fun _ => ([] : List Pending)) = [] := by simp
  have walk := Walks.directory (fun _ => [])
    (fun e => [e.2.leaf src.sections p.type p.name e.1])
    (fun raw target key a s keyed stored => entry_data p level keyed stored s) laid here
    (by rw [level]; exact deep) (none_below ▸ Walks.nil)
  have leaves : languages.leaves src.sections p.type p.name = languages.entries.flatMap fun e =>
      [e.2.leaf src.sections p.type p.name e.1] := List.map_eq_flatMap
  rw [Nat.add_zero, List.append_nil] at walk
  rwa [leaves]

/-- A directory of directories is visited with all that its entries lead to. -/
theorem walks_below {p : Pending} {Stands : ResourceDirectory κ α → Prop}
    {d : ResourceDirectory ResourceKey (ResourceDirectory κ α)}
    (directories : ResourceDirectory κ α → List Nat) (count : ResourceDirectory κ α → Nat)
    (leaves : ResourceKey → ResourceDirectory κ α → List ResourceEntry)
    (laid : src.DirectoryAt src.KeyFor (Source.LeadsTo Stands) d) (here : p.directory = d.offset)
    (shallow : (p.level : Int) < src.limits.maxResourceDepth)
    (each : ∀ key sub, Stands sub →
      Walks src [p.below key sub.offset] (directories sub) (count sub) (leaves key sub)) :
    Walks src [p] (d.offset :: d.entries.flatMap fun e => directories e.2)
      (d.entries.length + (d.entries.map fun e => count e.2).sum)
      (d.entries.flatMap fun e => leaves e.1 e.2) := by
  have deeper : Walks src (d.entries.flatMap fun e => [p.below e.1 e.2.offset])
      (d.entries.flatMap fun e => directories e.2) (d.entries.map fun e => count e.2).sum
      (d.entries.flatMap fun e => leaves e.1 e.2) := by
    apply Walks.flatMap
    intro e he
    obtain ⟨target, leads⟩ := leads_of_mem laid.entries he
    exact each e.1 e.2 leads.stands
  have no_leaves : d.entries.flatMap (fun _ => ([] : List ResourceEntry)) = [] := by simp
  have walk := Walks.directory _ (fun _ => [])
    (fun raw target key a s keyed leads => entry_leadsTo p keyed.key leads s) laid here shallow deeper
  rwa [no_leaves, List.nil_append] at walk

theorem walks_names {p : Pending} {names : NameDirectory} (laid : src.NamesAt names)
    (here : p.directory = names.offset) (level : p.level = 1)
    (deep : 3 ≤ src.limits.maxResourceDepth) :
    Walks src [p] names.directories names.entryCount (names.leaves src.sections p.type) := by
  have directories : names.directories =
      names.offset :: names.entries.flatMap fun e => [e.2.offset] := by
    rw [NameDirectory.directories, List.map_eq_flatMap]
  rw [directories]
  have shallow : (p.level : Int) < src.limits.maxResourceDepth := by
    rw [level]
    omega
  apply walks_below (fun languages => [languages.offset])
    (fun languages => languages.entries.length)
    (fun name (languages : LanguageDirectory) => languages.leaves src.sections p.type name) laid
    here shallow
  intro name languages stands
  have below : p.below name languages.offset =
      { directory := languages.offset, level := languageLevel, type := p.type, name } := by
    simp [Pending.below, level, typeLevel, languageLevel]
  rw [below]
  exact walks_languages stands rfl rfl deep

theorem walks_tree {tree : ResourceTree} (laid : src.TreeAt tree)
    (deep : 3 ≤ src.limits.maxResourceDepth) :
    Walks src [{ directory := tree.offset, level := typeLevel }] tree.directories tree.entryCount
      (tree.leaves src.sections) := by
  have shallow : ((typeLevel : Nat) : Int) < src.limits.maxResourceDepth := by
    simp only [typeLevel]
    omega
  apply walks_below NameDirectory.directories NameDirectory.entryCount
    (fun type (names : NameDirectory) => names.leaves src.sections type) laid rfl shallow
  intro type names stands
  exact walks_names stands rfl rfl deep

/-- Every directory but the root has an entry that leads to it. -/
theorem length_directories_le (tree : ResourceTree) :
    tree.directories.length ≤ tree.entryCount + 1 := by
  obtain ⟨offset, entries⟩ := tree
  simp only [ResourceTree.directories, ResourceTree.entryCount, NameDirectory.directories,
    NameDirectory.entryCount, List.length_cons, Nat.add_le_add_iff_right]
  induction entries with
  | nil => exact Nat.le_refl _
  | cons e rest ih =>
    simp only [List.flatMap_cons, List.length_append, List.length_cons, List.length_map,
      List.map_cons, List.sum_cons]
    omega

end ResourceIndex

open ResourceIndex in
/-- A tree that is laid out from the position of an address on. -/
structure ResourceTree.LaidOut (data : Bytes) (sections : SectionTable) (limits : Limits)
    (rva base : Nat) (tree : ResourceTree) : Prop where
  located : sections.offset? rva = some base
  root : tree.offset = 0
  stands : Source.TreeAt ⟨data, sections, limits, base⟩ tree
  apart : tree.directories.Nodup
  few : (tree.entryCount : Int) ≤ limits.maxResourceNodes
  deep : 3 ≤ limits.maxResourceDepth

namespace ResourceIndex

theorem read_laidOut {data : Bytes} {sections : SectionTable} {limits : Limits} {rva base : Nat}
    {tree : ResourceTree} (laid : tree.LaidOut data sections limits rva base) :
    read data sections limits rva =
      ({ entries := tree.leaves sections
         timestamp? := data.u32? (base + 4)
         majorVersion? := data.u16? (base + 8)
         minorVersion? := data.u16? (base + 10) }, []) := by
  have few := laid.few
  have short := length_directories_le tree
  have room : data.holds base directorySize = true := by
    have inside := laid.stands.room
    rw [laid.root] at inside
    exact Bytes.holds_iff.2 inside
  have located : (sections.offset? rva).filter (data.holds · directorySize) = some base := by
    rw [laid.located, Option.filter_some, room, if_pos rfl]
  -- The budget covers the entries, and each directory but the root has one of them.
  have fuel : limits.maxResourceNodes.toNat + 2 = tree.directories.length +
      (limits.maxResourceNodes.toNat + 2 - tree.directories.length) := by omega
  have walk := walks_tree laid.stands laid.deep (limits.maxResourceNodes.toNat + 2 -
    tree.directories.length) [] { budget := limits.maxResourceNodes.toNat } (by simp only; omega)
    laid.apart (by simp)
  rw [← fuel, laid.root, List.append_nil] at walk
  have done (fuel : Nat) (w : Walk) :
      Source.visitAll ⟨data, sections, limits, base⟩ fuel [] w = w := by
    cases fuel <;> rfl
  unfold read
  rw [located]
  simp only [walk, done]
  simp [Walk.past]

/-- A resource tree that is laid out is read as its leaves, each once and in the order in which they
are declared, with nothing to report; and so it is by the guarded reader, whatever positions it
remembers. -/
theorem laid_out_resources_are_read (data : Bytes) (sections : SectionTable) (limits : Limits)
    (rva base : Nat) (tree : ResourceTree) (laid : tree.LaidOut data sections limits rva base) :
    ∃ index, read data sections limits rva = (index, []) ∧
      Guarded.Yields sections (Guarded.resources data sections limits rva) (index, []) ∧
      index.entries = tree.leaves sections := by
  have read := read_laidOut laid
  have guarded := Guarded.yields_resources data sections limits rva
  rw [read] at guarded
  exact ⟨_, read, guarded, rfl⟩

/-- A type that is called by one character beyond 16 bits, with one resource in one language. The root
stands at address 4 of a memory image. -/
def smallTree : ResourceTree where
  offset := 0
  entries := [(⟨none, some "😀"⟩, {
    offset := 24
    entries := [(⟨some 1, none⟩, { offset := 48, entries := [(0x409, ⟨0x10, 5, 1252⟩)] })] })]

/-- The bytes of `smallTree`: four others, three directories, the data entry and the name. -/
def smallTreeBytes : Bytes :=
  Array.replicate 16 0 ++ #[1, 0, 0, 0, 88, 0, 0, 0x80, 24, 0, 0, 0x80] ++
  Array.replicate 14 0 ++ #[1, 0, 1, 0, 0, 0, 48, 0, 0, 0x80] ++
  Array.replicate 14 0 ++ #[1, 0, 9, 4, 0, 0, 72, 0, 0, 0] ++
  #[16, 0, 0, 0, 5, 0, 0, 0, 0xE4, 4, 0, 0, 0, 0, 0, 0, 2, 0, 0x3D, 0xD8, 0, 0xDE]

theorem small_tree_is_read :
    smallTree.LaidOut smallTreeBytes { sections := [], length := 98, mapped := true } {} 4 4 ∧
      ∃ index, read smallTreeBytes { sections := [], length := 98, mapped := true } {} 4 =
        (index, []) ∧ index.entries =
          [⟨⟨none, some "😀"⟩, ⟨some 1, none⟩, some 0x409, 0x10, 5, 1252, some 0x10⟩] := by
  let src : Source := ⟨smallTreeBytes, { sections := [], length := 98, mapped := true }, {}, 4⟩
  have type : src.KeyFor 0x80000058 ⟨none, some "😀"⟩ :=
    .name (show 88 < highBit by decide) (by decide) (by decide) (by decide)
  have data : src.DataAt 72 ⟨0x10, 5, 1252⟩ := ⟨by decide, by decide, by decide, by decide⟩
  have languages : src.LanguagesAt { offset := 48, entries := [(0x409, ⟨0x10, 5, 1252⟩)] } :=
    ⟨by decide, by decide,
      ⟨0x409, 72, by decide, by decide, ⟨rfl, by decide⟩, data⟩, trivial⟩
  have names : src.NamesAt { offset := 24, entries := [(⟨some 1, none⟩, _)] } :=
    ⟨by decide, by decide,
      ⟨1, 0x80000030, by decide, by decide, .id (by decide), by decide, by decide, languages⟩, trivial⟩
  have laid : smallTree.LaidOut smallTreeBytes src.sections {} 4 4 := {
    located := by decide
    root := rfl
    stands := ⟨by decide, by decide,
      ⟨0x80000058, 0x80000018, by decide, by decide, type, by decide, by decide, names⟩, trivial⟩
    apart := by decide
    few := by decide
    deep := by decide }
  obtain ⟨index, read, -, entries⟩ := laid_out_resources_are_read _ _ _ _ _ _ laid
  exact ⟨laid, index, read, entries⟩

end ResourceIndex

end PeFacts
