import PeFacts.Proofs.Rich
import PeFacts.Proofs.Rich.Window

/-!
# What a decoded table says

Whatever the buffer holds, a table of tools that is decoded says what stands there. Both searches give
where it is (`markerFrom_eq_some`, `start?_eq_some`); bytes that make up whole words are the bytes of
these words (`fieldBytes_words`), so masking and unmasking go word by word; and every query is a sum
over entries that are told apart by one part of the tool (`totalCount_fiberwise`). Main result:
`decoded_table_is_faithful`.
-/

namespace PeFacts

/-! ## Bytes as words -/

namespace Bytes

variable {data : Bytes}

/-- The whole words of a buffer. -/
def words (data : Bytes) : List Nat :=
  (List.range (data.size / 4)).map fun i => data.number (4 * i) 4

theorem words_lt : ∀ w ∈ data.words, w < 0x100000000 := by
  intro w hw
  obtain ⟨i, -, rfl⟩ := List.mem_map.1 hw
  exact data.number_lt (4 * i) 4

/-- Bytes that make up whole words are the bytes of these words. -/
theorem fieldBytes_words (whole : data.size % 4 = 0) : fieldBytes (wordFields data.words) = data := by
  have beginning (n : Nat) (inside : 4 * n ≤ data.size) :
      (fieldBytes (wordFields ((List.range n).map fun i => data.number (4 * i) 4))).toList =
        data.toList.take (4 * n) := by
    induction n with
    | zero => rfl
    | succ n ih =>
      have last : littleEndian 4 (data.number (4 * n) 4) = (data.toList.drop (4 * n)).take 4 :=
        littleEndian_number (by omega)
      simp only [fieldBytes, wordFields, List.flatMap_map] at ih ⊢
      rw [List.range_succ, List.flatMap_append, ih (by omega), List.flatMap_singleton, last,
        ← List.take_add, Nat.mul_succ]
  apply Array.toList_inj.1
  rw [words, beginning _ (by omega), List.take_of_length_le]
  rw [Array.length_toList]
  omega

/-- The numbers of a piece are those of the buffer. -/
theorem number_extract {start stop off n : Nat} (inside : start + off + n ≤ stop)
    (there : stop ≤ data.size) :
    Bytes.number (data.extract start stop) off n = data.number (start + off) n := by
  have piece : data.matchesAt (data.extract start stop) start := by
    rw [matchesAt_iff, Array.size_extract]
    refine ⟨by omega, ?_⟩
    congr 1
    omega
  exact (number_of_matchesAt piece (by rw [Array.size_extract]; omega)).symm

end Bytes

namespace Rich

variable {data raw : Bytes} {key : Nat}

/-- Masking takes whole words one by one. -/
theorem maskWords_words (whole : raw.size % 4 = 0) :
    maskWords raw key = fieldBytes (wordFields (raw.words.map (· ^^^ key))) := by
  conv_lhs => rw [← Bytes.fieldBytes_words whole]
  exact maskWords_fieldBytes Bytes.words_lt key

theorem masked_words_lt (word : key < 0x100000000) :
    ∀ w ∈ raw.words.map (· ^^^ key), w < 0x100000000 := by
  intro w hw
  obtain ⟨clear, there, rfl⟩ := List.mem_map.1 hw
  exact Guarded.xor_lt_wordRange (Bytes.words_lt clear there) word

/-- Masking twice with one key leaves whole words as they are. -/
theorem maskWords_maskWords (whole : raw.size % 4 = 0) (word : key < 0x100000000) :
    maskWords (maskWords raw key) key = raw := by
  rw [maskWords_words whole, maskWords_fieldBytes (masked_words_lt word), map_xor_xor,
    Bytes.fieldBytes_words whole]

theorem size_maskWords (whole : raw.size % 4 = 0) : (maskWords raw key).size = raw.size := by
  rw [maskWords_words whole, size_wordFields, List.length_map, Bytes.words, List.length_map,
    List.length_range]
  omega

/-- Masking the masked words gives the words, and every step of it succeeds. -/
theorem unmasked (whole : raw.size % 4 = 0) (long : 4 ≤ raw.size) (word : key < 0x100000000) :
    maskWords? (maskWords raw key) key = some raw ∧
      Guarded.maskWords (maskWords raw key) key = pure raw := by
  have again := maskWords_maskWords whole word
  have size : (maskWords raw key).size = raw.size := size_maskWords whole
  have enough : ¬ (maskWords raw key).size < 4 := by omega
  constructor
  · rw [maskWords?, if_neg enough, if_pos (by omega), Int.toNat_natCast, again]
  · rw [Guarded.maskWords_eq word, again]

theorem number_maskWords (whole : raw.size % 4 = 0) (word : key < 0x100000000) {i : Nat}
    (inside : 4 * i < raw.size) :
    (maskWords raw key).number (4 * i) 4 = raw.number (4 * i) 4 ^^^ key := by
  have stored := Bytes.wordsAt_of_matchesAt
    (Bytes.matchesAt_self (fieldBytes (wordFields (raw.words.map (· ^^^ key)))))
    (masked_words_lt word) i (by simp [Bytes.words]; omega)
  rw [maskWords_words whole, ← Nat.zero_add (4 * i), stored]
  simp [Bytes.words]

end Rich

/-! ## Queries -/

namespace RichSignature

open Rich

/-- The uses of entries are the sum of those of each part that occurs among them. -/
theorem totalCount_fiberwise (part : RichEntry → Int) {entries all : List RichEntry}
    (among : entries ⊆ all) :
    totalCount entries = ∑ n ∈ (all.map part).toFinset,
      totalCount (entries.filter fun e => part e == n) := by
  simp only [totalCount_eq]
  induction entries with
  | nil => simp
  | cons e entries ih =>
    obtain ⟨here, others⟩ := List.cons_subset.1 among
    have occurs : part e ∈ (all.map part).toFinset :=
      List.mem_toFinset.2 (List.mem_map_of_mem here)
    have split (n : Int) :
        (((e :: entries).filter fun e => part e == n).map (·.count)).sum =
          (if part e = n then e.count else 0) +
            ((entries.filter fun e => part e == n).map (·.count)).sum := by
      by_cases same : part e = n <;> simp [same]
    rw [List.map_cons, List.sum_cons, ih others, Finset.sum_congr rfl fun n _ => split n,
      Finset.sum_add_distrib, Finset.sum_ite_eq, if_pos occurs]

variable (s : RichSignature)

/-- The tool identifiers that occur, each once. -/
def toolIds : Finset Int := (s.entries.map fun e => (e.toolId : Int)).toFinset

/-- The versions that occur, each once. -/
def versions : Finset Int := (s.entries.map fun e => (e.version : Int)).toFinset

theorem versionCount_eq_toolCount (version toolId : Int) :
    s.versionCount version (some toolId) = s.toolCount toolId (some version) := by
  unfold versionCount toolCount
  congr 2
  funext e
  exact Bool.and_comm _ _

/-- The uses of a version are those of all tools that have it. -/
theorem versionCount_eq_sum (version : Int) :
    s.versionCount version = ∑ t ∈ s.toolIds, s.versionCount version (some t) := by
  have among : (s.entries.filter fun e => (e.version : Int) == version) ⊆ s.entries :=
    List.filter_subset_self _
  have parts := totalCount_fiberwise (fun e => e.toolId) among
  unfold versionCount toolIds
  simpa [List.filter_filter, Bool.and_comm] using parts

/-- The uses of a tool are those of all its versions. -/
theorem toolCount_eq_sum (toolId : Int) :
    s.toolCount toolId = ∑ v ∈ s.versions, s.toolCount toolId (some v) := by
  have among : (s.entries.filter fun e => (e.toolId : Int) == toolId) ⊆ s.entries :=
    List.filter_subset_self _
  have parts := totalCount_fiberwise (fun e => e.version) among
  unfold toolCount versions
  simpa [List.filter_filter, Bool.and_comm] using parts

/-! ## The table -/

/-- What the signature says is what stands in the buffer. -/
structure FaithfulTo (data : Bytes) (s : RichSignature) : Prop where
  length : 0 < s.length ∧ s.length % 4 = 0
  offset : 64 ≤ s.offset ∧ s.offset % 4 = 0
  rawData : s.rawData = data.extract s.offset (s.offset + s.length) ∧ s.rawData.size = s.length
  /-- The letters `Rich` and the key stand behind the table. -/
  behind : data.matchesAt (marker ++ (littleEndian 4 s.key).toArray) (s.offset + s.length)
  /-- The clear table is the raw one, each word masked with the key. -/
  clearData : s.clearData.size = s.length ∧ s.key < 0x100000000 ∧ ∀ i, 4 * i < s.length →
    s.clearData.number (4 * i) 4 = s.rawData.number (4 * i) 4 ^^^ s.key
  /-- Masking the clear table gives the raw one back. -/
  masked : maskWords? s.clearData s.key = some s.rawData ∧
    Guarded.maskWords s.clearData s.key = pure s.rawData
  /-- So does writing its words, each masked with the key. -/
  written : fieldBytes (wordFields (s.clearData.words.map (· ^^^ s.key))) = s.rawData
  /-- The clear table starts with the letters `DanS`. -/
  start : s.clearData.matchesAt #[0x44, 0x61, 0x6E, 0x53] 0
  /-- No later word of it is the start. -/
  last : ∀ i, 0 < i → 4 * i < s.length → s.clearData.number (4 * i) 4 ≠ startWord
  /-- As many entries as there are pairs of words behind the four words of the start. -/
  entries : (s.entries.length : Int) = max 0 (s.length - 16 : Int) / 8
  versionTool : ∀ version toolId : Int,
    s.versionCount version (some toolId) = s.toolCount toolId (some version)
  version : ∀ version : Int,
    s.versionCount version = ∑ t ∈ s.toolIds, s.versionCount version (some t)
  tool : ∀ toolId : Int, s.toolCount toolId = ∑ v ∈ s.versions, s.toolCount toolId (some v)

end RichSignature

namespace Rich

variable {data : Bytes} {place : Nat} {s : RichSignature}

/-- A number that is read stands there. -/
theorem matchesAt_word {off w : Nat} (read : data.u32? off = some w) :
    data.matchesAt (littleEndian 4 w).toArray off := by
  obtain ⟨inside, rfl⟩ := Bytes.number?_eq_some_iff.1 read
  rw [Bytes.matchesAt_iff, List.size_toArray, length_littleEndian]
  refine ⟨inside, Array.toList_inj.1 ?_⟩
  rw [Bytes.littleEndian_number inside, Array.toList_extract, List.extract_eq_take_drop,
    Nat.add_sub_cancel_left]

/-- A word that is the start shows its letters. -/
theorem matchesAt_start (long : 4 ≤ data.size) (start : data.number 0 4 = startWord) :
    data.matchesAt #[0x44, 0x61, 0x6E, 0x53] 0 :=
  matchesAt_word (Bytes.number?_eq_some_iff.2 ⟨by omega, start⟩)

/-- The table before a marker is what stands there. -/
theorem faithful_of_decodeAt? {k : Nat} (place_eq : place = 64 + 4 * k)
    (marked : data.matchesAt marker place) (found : decodeAt? data place = some s) :
    s.FaithfulTo data := by
  unfold decodeAt? at found
  simp only [Option.bind_eq_bind, Option.bind_eq_some_iff, Header.dosSize] at found
  obtain ⟨key, key_read, start, started, same⟩ := found
  obtain ⟨inside, key_eq⟩ := Bytes.number?_eq_some_iff.1 key_read
  obtain ⟨j, before, start_eq, there, last⟩ := start?_eq_some started
  have words : (place - 64) / 4 = k := by omega
  rw [words] at before last
  have word : key < 0x100000000 := by
    rw [← key_eq]
    exact data.number_lt _ 4
  have size : (data.extract start place).size = place - start := by
    rw [Array.size_extract]
    omega
  have whole : (data.extract start place).size % 4 = 0 := by omega
  -- The words of the table are those of the buffer from its start on.
  have raw_word {i : Nat} (hi : 4 * i < place - start) :
      Bytes.number (data.extract start place) (4 * i) 4 = data.number (64 + 4 * (j + i)) 4 := by
    rw [Bytes.number_extract (by omega) (by omega), start_eq]
    congr 1
    omega
  have clear_word {i : Nat} (hi : 4 * i < place - start) :
      (maskWords (data.extract start place) key).number (4 * i) 4 =
        data.number (64 + 4 * (j + i)) 4 ^^^ key := by
    rw [number_maskWords whole word (by omega), raw_word hi]
  have clear_size : (maskWords (data.extract start place) key).size =
      (data.extract start place).size := size_maskWords whole
  cases same
  exact {
    length := ⟨by dsimp only; omega, whole⟩
    offset := ⟨by dsimp only; omega, by dsimp only; omega⟩
    rawData := by
      refine ⟨?_, rfl⟩
      dsimp only
      congr 1
      omega
    behind := by
      have ended : start + (data.extract start place).size = place := by omega
      dsimp only
      rw [ended]
      exact Bytes.matchesAt_append_iff.2 ⟨marked, matchesAt_word key_read⟩
    clearData := ⟨clear_size, word, fun i hi => number_maskWords whole word hi⟩
    masked := unmasked whole (by omega) word
    written := by
      have clear_whole : (maskWords (data.extract start place) key).size % 4 = 0 := by omega
      dsimp only
      rw [← maskWords_words clear_whole, maskWords_maskWords whole word]
    start := by
      refine matchesAt_start (by dsimp only; omega) ?_
      have first := clear_word (i := 0) (by omega)
      rw [Nat.mul_zero, Nat.add_zero, ← start_eq, there] at first
      exact first
    last := by
      intro i after hi
      rw [clear_word (by dsimp only at hi; omega)]
      exact last (j + i) (by omega) (by dsimp only at hi; omega)
    entries := by
      rw [RichSignature.entries, entriesOf, List.length_map, List.length_range]
      dsimp only
      omega
    versionTool := RichSignature.versionCount_eq_toolCount _
    version := RichSignature.versionCount_eq_sum _
    tool := RichSignature.toolCount_eq_sum _ }

/-- A table that is decoded is the one that stands in the buffer, wherever the other headers begin and
however far it is looked for. -/
theorem decoded_table_is_faithful {data : Bytes} {eLfanew limit : Int} {s : RichSignature}
    {problems : List Problem}
    (decoded : Guarded.rich data eLfanew limit = pure (some s, problems)) : s.FaithfulTo data := by
  have found : read data eLfanew limit = (some s, problems) := by
    rw [Guarded.rich_eq] at decoded
    exact Guarded.pure_inj.1 decoded
  unfold read at found
  dsimp only at found
  split at found
  next place marked =>
    obtain ⟨k, -, place_eq, there⟩ := markerFrom_eq_some marked
    exact faithful_of_decodeAt? place_eq there (Prod.mk.inj found).1
  · cases found

/-- A table with one entry and one more word behind it, after a word of padding. -/
def oddStub : Bytes := List.toArray <|
  List.replicate 64 0 ++ [0x0E, 0x1F, 0xBA, 0x0E] ++
    (fieldBytes (wordFields ([startWord, 0, 0, 0, 0x104784B, 12, 7].map (· ^^^ 0x4784B4F9)))).toList ++
    (fieldBytes (wordFields [markerWord, 0x4784B4F9])).toList

theorem odd_table_is_faithful :
    ∃ s, Guarded.rich oddStub 200 0x1000 = pure (some s, []) ∧ s.FaithfulTo oddStub ∧
      s.offset = 68 ∧ s.length = 28 ∧ s.entries = [⟨0x104, 30795, 12⟩] := by
  have facts : (read oddStub 200 0x1000).1.map (fun s => (s.offset, s.length, s.entries)) =
      some (68, 28, [⟨0x104, 30795, 12⟩]) := by decide +kernel
  have quiet : (read oddStub 200 0x1000).2 = [] := by decide +kernel
  obtain ⟨s, found, same⟩ := Option.map_eq_some_iff.1 facts
  simp only [Prod.mk.injEq] at same
  have decoded : Guarded.rich oddStub 200 0x1000 = pure (some s, []) := by
    rw [Guarded.rich_eq, ← found, ← quiet]
  exact ⟨s, decoded, decoded_table_is_faithful decoded, same⟩

end Rich

end PeFacts
