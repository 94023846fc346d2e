import PeFacts.Guarded.Rich
import PeFacts.Proofs.Stored.Field

/-!
# Tables of tools that are laid out in a buffer

How a linker writes the table of tools, and that it is read back. `Rich.LaidOut` places the masked
words behind any padding. The search forwards finds the marker (`markerFrom_eq`), the search
backwards finds the start (`start?_eq`), unmasking gives the clear words (`maskWords_fieldBytes`), and
the entries are taken from them (`entriesOf_tableWords`). Main result: `laid_out_table_is_decoded`.
-/

namespace PeFacts

/-! ## Words in a buffer -/

/-- Words as fields. -/
def wordFields (words : List Nat) : List Field := words.map fun w => ⟨4, w⟩

theorem size_wordFields (words : List Nat) :
    (fieldBytes (wordFields words)).size = 4 * words.length := by
  rw [size_fieldBytes, wordFields, List.map_map]
  induction words with
  | nil => rfl
  | cons w words ih =>
    rw [List.map_cons, List.sum_cons, ih, List.length_cons, Nat.mul_succ, Nat.add_comm]
    rfl

namespace Bytes

variable {data : Bytes} {off : Nat} {words : List Nat}

/-- The words stand one after the other from `off` on. -/
def WordsAt (data : Bytes) (off : Nat) (words : List Nat) : Prop :=
  ∀ i (hi : i < words.length), data.number (off + 4 * i) 4 = words[i]

theorem wordsAt_of_fieldsAt (stored : data.FieldsAt off (wordFields words)) :
    data.WordsAt off words := by
  induction words generalizing off with
  | nil => exact nofun
  | cons w words ih =>
    obtain ⟨first, others⟩ := stored
    intro i hi
    cases i with
    | zero => exact first
    | succ i =>
      have later := ih others i (by simpa using hi)
      rwa [Nat.add_assoc, Nat.add_comm 4, ← Nat.mul_succ] at later

theorem wordsAt_of_matchesAt (stored : data.matchesAt (fieldBytes (wordFields words)) off)
    (small : ∀ w ∈ words, w < 0x100000000) : data.WordsAt off words := by
  apply wordsAt_of_fieldsAt
  apply fieldsAt_of_matchesAt stored
  intro f hf
  obtain ⟨w, hw, rfl⟩ := List.mem_map.1 hf
  exact small w hw

theorem matchesAt_self (data : Bytes) : data.matchesAt data 0 = true := by
  simp [matchesAt]

end Bytes

/-! ## How a table is written -/

/-- The parts of an entry take half a word each, and its count a word. -/
structure RichEntry.InRange (e : RichEntry) : Prop where
  toolId : e.toolId < 0x10000
  version : e.version < 0x10000
  count : e.count < 0x100000000

namespace Rich

/-- The letters `Rich` as a word. -/
def markerWord : Nat := 0x68636952

/-- The two words of an entry. -/
def entryWords (e : RichEntry) : List Nat := [e.toolId * 0x10000 + e.version, e.count]

/-- The clear words of a table. -/
def tableWords (entries : List RichEntry) : List Nat :=
  [startWord, 0, 0, 0] ++ entries.flatMap entryWords

/-- The table stands in the buffer, after padding that begins at the end of the DOS header: the
masked words, and behind them the marker and the key. -/
structure LaidOut (data : Bytes) (padding key : Nat) (entries : List RichEntry) : Prop where
  /-- The padding takes whole words. -/
  aligned : padding % 4 = 0
  masked : data.matchesAt (fieldBytes (wordFields ((tableWords entries).map (· ^^^ key))))
    (64 + padding)
  behind : data.matchesAt (fieldBytes (wordFields [markerWord, key]))
    (64 + padding + (16 + 8 * entries.length))
  inRange : key < 0x100000000 ∧ ∀ e ∈ entries, e.InRange
  /-- No word before the marker looks like it. -/
  noMarkerBefore : ∀ i, 4 * i < padding → data.number (64 + 4 * i) 4 ≠ markerWord
  noMarkerInside : ∀ w ∈ tableWords entries, w ^^^ key ≠ markerWord
  /-- No clear word but the first looks like the start. -/
  noStartInside : ∀ w ∈ (tableWords entries).tail, w ≠ startWord

/-- A 32-bit word turned left. -/
def turned (w turns : Nat) : Nat := ((BitVec.ofNat 32 w).rotateLeft turns).toNat

/-- The key that a linker computes: a sum over the bytes before the table, without those that locate
the other headers, and over the entries. -/
def linkerKey (data : Bytes) (start : Nat) (entries : List RichEntry) : Nat :=
  let bytes := (List.range start).filter fun i => ¬ (0x3C ≤ i ∧ i < 0x40)
  (start + (bytes.map fun i => turned (data.byte i) i).sum +
    (entries.map fun e => turned (e.toolId * 0x10000 + e.version) e.count).sum) % 0x100000000

/-- The signature is the table of these entries. -/
structure Decodes (data : Bytes) (padding key : Nat) (entries : List RichEntry)
    (s : RichSignature) : Prop where
  offset : s.offset = 64 + padding
  length : s.length = 16 + 8 * entries.length
  sameKey : s.key = key
  rawData : s.rawData = fieldBytes (wordFields ((tableWords entries).map (· ^^^ key)))
  clearData : s.clearData = fieldBytes (wordFields (tableWords entries))
  sameEntries : s.entries = entries
  checksumValid : s.checksumValid ↔ key = linkerKey data (64 + padding) entries
  versionCount : ∀ (version : Int) (toolId? : Option Int), s.versionCount version toolId? =
    ((entries.filter fun e =>
      e.version = version ∧ (toolId? = none ∨ toolId? = some (e.toolId : Int))).map (·.count)).sum
  toolCount : ∀ (toolId : Int) (version? : Option Int), s.toolCount toolId version? =
    ((entries.filter fun e =>
      e.toolId = toolId ∧ (version? = none ∨ version? = some (e.version : Int))).map (·.count)).sum

theorem length_tableWords (entries : List RichEntry) :
    (tableWords entries).length = 4 + 2 * entries.length := by
  rw [tableWords, List.length_append]
  induction entries with
  | nil => rfl
  | cons e entries ih =>
    rw [List.flatMap_cons, List.length_append, List.length_cons]
    simp only [entryWords, List.length_cons, List.length_nil] at ih ⊢
    omega

theorem tableWords_lt {entries : List RichEntry} (inRange : ∀ e ∈ entries, e.InRange) :
    ∀ w ∈ tableWords entries, w < 0x100000000 := by
  intro w hw
  rcases List.mem_append.1 hw with first | later
  · have small : ∀ w ∈ [startWord, 0, 0, 0], w < 0x100000000 := by decide
    exact small w first
  · obtain ⟨e, he, hw⟩ := List.mem_flatMap.1 later
    obtain ⟨toolId, version, count⟩ := inRange e he
    simp only [entryWords, List.mem_cons, List.not_mem_nil, or_false] at hw
    omega

/-! ## Searching -/

variable {data : Bytes} {off : Nat}

theorem number_of_marker (there : data.matchesAt marker off) :
    data.number off 4 = markerWord :=
  Bytes.number_of_matchesAt there (i := 0) (by decide)

/-- The search forwards finds the first marker if it comes that far. -/
theorem markerFrom_eq {k : Nat} (there : data.matchesAt marker (off + 4 * k))
    (first : ∀ i < k, data.number (off + 4 * i) 4 ≠ markerWord) {count : Nat} (few : k < count) :
    markerFrom data off count = some (off + 4 * k) := by
  induction count generalizing off k with
  | zero => cases few
  | succ count ih =>
    rw [markerFrom]
    cases k with
    | zero => exact if_pos there
    | succ k =>
      have other : ¬ data.matchesAt marker off := fun here => first 0 (by omega) (number_of_marker here)
      have shift (i : Nat) : off + 4 + 4 * i = off + 4 * (i + 1) := by omega
      rw [if_neg other, ih (by rwa [shift]) (fun i hi => ?_) (by omega), shift]
      rw [shift]
      exact first (i + 1) (by omega)

/-- The search backwards finds the last start. -/
theorem start?_eq {key k words : Nat} (few : k < words)
    (there : data.number (64 + 4 * k) 4 ^^^ key = startWord)
    (last : ∀ i, k < i → i < words → data.number (64 + 4 * i) 4 ^^^ key ≠ startWord) :
    start? data key words = some (64 + 4 * k) := by
  induction words with
  | zero => cases few
  | succ words ih =>
    rw [start?]
    by_cases here : k = words
    · subst here
      exact if_pos there
    · have other : data.number (64 + 4 * words) 4 ^^^ key ≠ startWord := last words (by omega) (by omega)
      exact (if_neg other).trans (ih (by omega) fun i hi less => last i hi (by omega))

/-! ## Unmasking -/

theorem wordBytes_eq (w : Nat) : wordBytes w = (littleEndian 4 w).toArray := by
  simp [wordBytes, littleEndian, Nat.div_div_eq_div_mul]

theorem foldl_wordBytes (words : List Nat) (out : Bytes) :
    words.foldl (fun out w => out ++ wordBytes w) out = out ++ fieldBytes (wordFields words) := by
  induction words generalizing out with
  | nil => simp [wordFields]
  | cons w words ih =>
    have split : fieldBytes (wordFields (w :: words)) = wordBytes w ++ fieldBytes (wordFields words) := by
      rw [wordBytes_eq]
      exact fieldBytes_cons ⟨4, w⟩ (wordFields words)
    rw [List.foldl_cons, ih, split, Array.append_assoc]

/-- Numbers read at distances of four bytes are the words that stand there. -/
theorem map_range_number {words : List Nat} (stored : data.WordsAt off words) :
    (List.range words.length).map (fun i => data.number (off + 4 * i) 4) = words := by
  apply List.ext_getElem
  · simp
  · intro i hi hi'
    simpa using stored i hi'

/-- Masking takes the words one by one. -/
theorem maskWords_fieldBytes {words : List Nat} (small : ∀ w ∈ words, w < 0x100000000) (key : Nat) :
    maskWords (fieldBytes (wordFields words)) key =
      fieldBytes (wordFields (words.map (· ^^^ key))) := by
  have size := size_wordFields words
  have whole : (fieldBytes (wordFields words)).size / 4 = words.length := by omega
  have rest : (fieldBytes (wordFields words)).extract (4 * words.length)
      (fieldBytes (wordFields words)).size = #[] := by
    simp [size]
  have read := map_range_number (Bytes.wordsAt_of_matchesAt (Bytes.matchesAt_self _) small)
  simp only [Nat.zero_add] at read
  unfold maskWords
  simp only [whole, rest, Array.append_empty]
  calc (List.range words.length).foldl (fun out i =>
        out ++ wordBytes ((fieldBytes (wordFields words)).number (4 * i) 4 ^^^ key)) #[]
      = (((List.range words.length).map fun i =>
          (fieldBytes (wordFields words)).number (4 * i) 4).map (· ^^^ key)).foldl
            (fun out w => out ++ wordBytes w) #[] := by rw [List.foldl_map, List.foldl_map]
    _ = fieldBytes (wordFields (words.map (· ^^^ key))) := by
      rw [read, foldl_wordBytes, Array.empty_append]

/-- Masking twice with one key leaves the words as they are. -/
theorem map_xor_xor (words : List Nat) (key : Nat) :
    (words.map (· ^^^ key)).map (· ^^^ key) = words := by
  simp [Function.comp_def]

theorem getElem?_entryWords (entries : List RichEntry) (i : Nat) :
    (entries.flatMap entryWords)[2 * i]? = entries[i]?.map RichEntry.tool ∧
      (entries.flatMap entryWords)[2 * i + 1]? = entries[i]?.map RichEntry.count := by
  induction entries generalizing i with
  | nil => simp
  | cons e entries ih =>
    cases i with
    | zero => exact ⟨rfl, rfl⟩
    | succ i => exact ih i

/-- Behind the four words of the start the words of an entry come after those of the entries before
it. -/
theorem getElem_tableWords {entries : List RichEntry} {i : Nat} (hi : i < entries.length)
    (h : 4 + 2 * i + 1 < (tableWords entries).length) :
    (tableWords entries)[4 + 2 * i] = entries[i].tool ∧
      (tableWords entries)[4 + 2 * i + 1] = entries[i].count := by
  obtain ⟨tool, count⟩ := getElem?_entryWords entries i
  rw [List.getElem?_eq_getElem hi] at tool count
  constructor
  · rw [List.getElem_eq_iff, tableWords, List.getElem?_append_right (by simp)]
    simpa using tool
  · rw [List.getElem_eq_iff, tableWords, List.getElem?_append_right (by simp; omega)]
    simpa [Nat.add_assoc] using count

/-- The entries are taken from the clear words behind the four words of the start. -/
theorem entriesOf_tableWords {entries : List RichEntry} (inRange : ∀ e ∈ entries, e.InRange) :
    entriesOf (fieldBytes (wordFields (tableWords entries))) = entries := by
  have stored := Bytes.wordsAt_of_matchesAt (Bytes.matchesAt_self
    (fieldBytes (wordFields (tableWords entries)))) (tableWords_lt inRange)
  have length := length_tableWords entries
  have size : (fieldBytes (wordFields (tableWords entries))).size = 16 + 8 * entries.length := by
    rw [size_wordFields]
    omega
  have count : (16 + 8 * entries.length - 16) / 8 = entries.length := by omega
  unfold entriesOf
  rw [size, count]
  apply List.ext_getElem
  · simp
  · intro i hi hi'
    obtain ⟨tool, uses⟩ := getElem_tableWords hi' (by omega)
    have tool_read := stored (4 + 2 * i) (by omega)
    have uses_read := stored (4 + 2 * i + 1) (by omega)
    obtain ⟨-, version, -⟩ := inRange entries[i] (List.getElem_mem hi')
    have tool_place : 0 + 4 * (4 + 2 * i) = 16 + 8 * i := by omega
    have uses_place : 0 + 4 * (4 + 2 * i + 1) = 20 + 8 * i := by omega
    rw [tool_place, tool, RichEntry.tool] at tool_read
    rw [uses_place, uses] at uses_read
    have toolId : (entries[i].toolId * 0x10000 + entries[i].version) / 0x10000 =
        entries[i].toolId := by omega
    have low : (entries[i].toolId * 0x10000 + entries[i].version) % 0x10000 =
        entries[i].version := by omega
    rw [List.getElem_map, List.getElem_range, tool_read, uses_read]
    dsimp only
    rw [toolId, low]

/-! ## Checksums -/

/-- What is turned out on the left comes in on the right, where there is room for it. -/
theorem rotateLeft_eq {w : Nat} (word : w < 0x100000000) (turns : Nat) :
    rotateLeft w turns = turned w turns := by
  have few : turns % 32 < 32 := Nat.mod_lt _ (by decide)
  unfold rotateLeft turned
  rw [BitVec.toNat_rotateLeft, BitVec.toNat_ofNat, Nat.mod_eq_of_lt word]
  generalize turns % 32 = n at few
  have whole : 2 ^ (32 - n) * 2 ^ n = 0x100000000 := by
    rw [← Nat.pow_add, Nat.sub_add_cancel (Nat.le_of_lt few)]
  have high : w <<< n % 0x100000000 = (w % 2 ^ (32 - n)) <<< n := by
    rw [Nat.shiftLeft_eq, Nat.shiftLeft_eq, ← whole, Nat.mul_mod_mul_right]
  have low : w >>> (32 - n) < 2 ^ n := by
    rw [Nat.shiftRight_eq_div_pow]
    exact Nat.div_lt_of_lt_mul (whole ▸ word)
  dsimp only
  rw [high, Nat.shiftLeft_add_eq_or_of_lt low]

/-- A sum that is reduced at every step is the sum reduced once. -/
theorem foldl_add_mod {α : Type} (f : α → Nat) {m : Nat} (as : List α) {s : Nat} (small : s < m) :
    as.foldl (fun sum a => (sum + f a) % m) s = (s + (as.map f).sum) % m := by
  induction as generalizing s with
  | nil => exact (Nat.mod_eq_of_lt small).symm
  | cons a as ih =>
    rw [List.foldl_cons, ih (Nat.mod_lt _ (by omega)), List.map_cons, List.sum_cons,
      Nat.mod_add_mod, Nat.add_assoc]

/-- The first byte is added in any case, so the sum over the bytes is reduced even if the place of
the table is large. -/
theorem checksum_eq {start : Nat} (behind : 0 < start) {entries : List RichEntry}
    (inRange : ∀ e ∈ entries, e.InRange) :
    checksum data start entries = linkerKey data start entries := by
  have bytes_turned (bytes : List Nat) : bytes.map (fun i => rotateLeft (data.byte i) i) =
      bytes.map fun i => turned (data.byte i) i :=
    List.map_congr_left fun i _ => rotateLeft_eq (Nat.lt_trans (data.byte_lt i) (by decide)) i
  have tools_turned : entries.map (fun e => rotateLeft e.tool e.count) =
      entries.map fun e => turned (e.toolId * 0x10000 + e.version) e.count := by
    refine List.map_congr_left fun e he => ?_
    obtain ⟨toolId, version, -⟩ := inRange e he
    exact rotateLeft_eq (by rw [RichEntry.tool]; omega) e.count
  obtain ⟨k, rfl⟩ : ∃ k, start = k + 1 := ⟨start - 1, by omega⟩
  have kept : (List.range (k + 1)).foldl (fun sum i =>
      if Header.eLfanewOffset ≤ i ∧ i < Header.eLfanewOffset + 4 then sum
      else (sum + rotateLeft (data.byte i) i) % 0x100000000) (k + 1) =
      ((List.range (k + 1)).filter fun i => ¬ (0x3C ≤ i ∧ i < 0x40)).foldl
        (fun sum i => (sum + rotateLeft (data.byte i) i) % 0x100000000) (k + 1) := by
    rw [List.foldl_filter]
    congr 1
    funext sum i
    by_cases skipped : 0x3C ≤ i ∧ i < 0x40
    · simp [Header.eLfanewOffset, skipped]
    · simp [Header.eLfanewOffset, skipped]
  have first : (List.range (k + 1)).filter (fun i => ¬ (0x3C ≤ i ∧ i < 0x40)) =
      0 :: ((List.range k).map Nat.succ).filter fun i => ¬ (0x3C ≤ i ∧ i < 0x40) := by
    rw [List.range_succ_eq_map, List.filter_cons_of_pos (by decide)]
  have reduced (n : Nat) : n % 0x100000000 < 0x100000000 := Nat.mod_lt n (by decide)
  unfold checksum linkerKey
  simp only [kept, first, ← bytes_turned, ← tools_turned]
  rw [List.foldl_cons, foldl_add_mod _ _ (reduced _), foldl_add_mod _ _ (reduced _), List.map_cons,
    List.sum_cons]
  omega

theorem totalCount_eq (entries : List RichEntry) :
    RichSignature.totalCount entries = (entries.map (·.count)).sum := by
  rw [RichSignature.totalCount, List.sum_eq_foldl, List.foldl_map]

/-- The entries with one part, and with the other part if it is given. -/
theorem filter_matching (part other : RichEntry → Int) (entries : List RichEntry) (n : Int)
    (m? : Option Int) :
    (entries.filter fun e => part e == n && m?.all (other e == ·)) =
      entries.filter fun e => part e = n ∧ (m? = none ∨ m? = some (other e)) := by
  congr 1
  funext e
  rw [Bool.eq_iff_iff]
  cases m? with
  | none => simp
  | some m =>
    have swap : m = other e ↔ other e = m := eq_comm
    simp [swap]

/-! ## The table -/

section Table

variable {padding key : Nat} {entries : List RichEntry}

theorem masked_lt (laidOut : LaidOut data padding key entries) :
    ∀ w ∈ (tableWords entries).map (· ^^^ key), w < 0x100000000 := by
  intro w hw
  obtain ⟨clear, hclear, rfl⟩ := List.mem_map.1 hw
  exact Guarded.xor_lt_wordRange (tableWords_lt laidOut.inRange.2 clear hclear) laidOut.inRange.1

/-- The words of the buffer from the padding on are the masked words of the table. -/
theorem number_masked (laidOut : LaidOut data padding key entries) {i : Nat}
    (hi : i < (tableWords entries).length) :
    data.number (64 + padding + 4 * i) 4 = (tableWords entries)[i] ^^^ key := by
  have stored := Bytes.wordsAt_of_matchesAt laidOut.masked (masked_lt laidOut) i (by simpa using hi)
  rwa [List.getElem_map] at stored

theorem marker_laidOut (laidOut : LaidOut data padding key entries) :
    data.matchesAt marker (64 + padding + (16 + 8 * entries.length)) := by
  have letters : fieldBytes (wordFields [markerWord, key]) =
      marker ++ fieldBytes (wordFields [key]) := fieldBytes_cons ⟨4, markerWord⟩ (wordFields [key])
  have behind := laidOut.behind
  rw [letters] at behind
  exact (Bytes.matchesAt_append_iff.1 behind).1

/-- The first marker in the window is the one behind the table. -/
theorem marker?_laidOut (laidOut : LaidOut data padding key entries) {stop : Int}
    (before : (64 + padding + (16 + 8 * entries.length) + 4 : Int) ≤ stop) :
    marker? data stop = some (64 + padding + (16 + 8 * entries.length)) := by
  have aligned := laidOut.aligned
  have length := length_tableWords entries
  have inside := (Bytes.matchesAt_iff.1 laidOut.behind).1
  rw [size_wordFields, List.length_cons, List.length_cons, List.length_nil] at inside
  have place : 64 + padding + (16 + 8 * entries.length) =
      64 + 4 * (padding / 4 + 4 + 2 * entries.length) := by omega
  have there := marker_laidOut laidOut
  unfold marker?
  rw [place] at there ⊢
  apply markerFrom_eq there
  · intro i hi
    by_cases padded : 4 * i < padding
    · exact laidOut.noMarkerBefore i padded
    · have inTable : i - padding / 4 < (tableWords entries).length := by omega
      have word := number_masked laidOut inTable
      have here : 64 + padding + 4 * (i - padding / 4) = 64 + 4 * i := by omega
      rw [here] at word
      rw [word]
      exact laidOut.noMarkerInside _ (List.getElem_mem inTable)
  · simp only [Bytes.cut, Header.dosSize]
    split <;> omega

/-- The last start before the marker is that of the table. -/
theorem start?_laidOut (laidOut : LaidOut data padding key entries) :
    start? data key ((64 + padding + (16 + 8 * entries.length) - Header.dosSize) / 4) =
      some (64 + padding) := by
  have aligned := laidOut.aligned
  have length := length_tableWords entries
  have place : 64 + 4 * (padding / 4) = 64 + padding := by omega
  have unmasked {i : Nat} (hi : i < (tableWords entries).length) :
      data.number (64 + padding + 4 * i) 4 ^^^ key = (tableWords entries)[i] := by
    rw [number_masked laidOut hi, Nat.xor_assoc, Nat.xor_self, Nat.xor_zero]
  rw [← place]
  apply start?_eq
  · simp only [Header.dosSize]
    omega
  · have first := unmasked (i := 0) (by omega)
    rw [Nat.mul_zero, Nat.add_zero] at first
    rw [place, first]
    rfl
  · intro i later less
    simp only [Header.dosSize] at less
    have inTable : i - padding / 4 < (tableWords entries).length := by omega
    have word := unmasked inTable
    have here : 64 + padding + 4 * (i - padding / 4) = 64 + 4 * i := by omega
    rw [here] at word
    rw [word]
    refine laidOut.noStartInside _ ?_
    rw [List.mem_iff_getElem]
    exact ⟨i - padding / 4 - 1, by simp; omega, by simp; congr 1; omega⟩

theorem decodeAt?_laidOut (laidOut : LaidOut data padding key entries) :
    decodeAt? data (64 + padding + (16 + 8 * entries.length)) = some {
      offset := 64 + padding
      length := 16 + 8 * entries.length
      key
      rawData := fieldBytes (wordFields ((tableWords entries).map (· ^^^ key)))
      clearData := fieldBytes (wordFields (tableWords entries))
      checksumValid := linkerKey data (64 + padding) entries == key } := by
  have size : (fieldBytes (wordFields ((tableWords entries).map (· ^^^ key)))).size =
      16 + 8 * entries.length := by
    rw [size_wordFields, List.length_map, length_tableWords]
    omega
  have raw := (Bytes.matchesAt_iff.1 laidOut.masked).2
  rw [size] at raw
  have clear : maskWords (fieldBytes (wordFields ((tableWords entries).map (· ^^^ key)))) key =
      fieldBytes (wordFields (tableWords entries)) := by
    rw [maskWords_fieldBytes (masked_lt laidOut), map_xor_xor]
  have key_read : data.u32? (64 + padding + (16 + 8 * entries.length) + 4) = some key := by
    have inside := (Bytes.matchesAt_iff.1 laidOut.behind).1
    rw [size_wordFields, List.length_cons, List.length_cons, List.length_nil] at inside
    have words : ∀ w ∈ [markerWord, key], w < 0x100000000 :=
      List.forall_mem_cons.2 ⟨by decide, List.forall_mem_singleton.2 laidOut.inRange.1⟩
    exact Bytes.number?_eq_some_iff.2
      ⟨by omega, Bytes.wordsAt_of_matchesAt laidOut.behind words 1 (by simp)⟩
  unfold decodeAt?
  simp only [key_read, start?_laidOut laidOut, raw, size, clear, Option.bind_eq_bind,
    Option.bind_some, entriesOf_tableWords laidOut.inRange.2,
    checksum_eq (show 0 < 64 + padding by omega) laidOut.inRange.2]
  rfl

/-- The table that is decoded says what was written. -/
theorem decodes_laidOut (laidOut : LaidOut data padding key entries) {s : RichSignature}
    (found : decodeAt? data (64 + padding + (16 + 8 * entries.length)) = some s) :
    Decodes data padding key entries s := by
  rw [decodeAt?_laidOut laidOut] at found
  obtain rfl := Option.some.inj found
  have sameEntries : entriesOf (fieldBytes (wordFields (tableWords entries))) = entries :=
    entriesOf_tableWords laidOut.inRange.2
  constructor
  · rfl
  · rfl
  · rfl
  · rfl
  · rfl
  · exact sameEntries
  · rw [beq_iff_eq, eq_comm]
  · intro version toolId?
    rw [RichSignature.versionCount, RichSignature.entries, sameEntries, totalCount_eq,
      filter_matching (fun e => e.version) (fun e => e.toolId)]
  · intro toolId version?
    rw [RichSignature.toolCount, RichSignature.entries, sameEntries, totalCount_eq,
      filter_matching (fun e => e.toolId) (fun e => e.version)]

end Table

/-- A table that is laid out before the other headers, and inside the window that is searched, is
decoded: its entries are those that were written, and the checksum is valid just when its key is the
one that a linker computes. -/
theorem laid_out_table_is_decoded {padding key : Nat} {entries : List RichEntry}
    (laidOut : LaidOut data padding key entries) {eLfanew limit : Int}
    (before : (64 + padding + (16 + 8 * entries.length) + 8 : Int) ≤ eLfanew)
    (near : (64 + padding + (16 + 8 * entries.length) + 8 : Int) ≤ 64 + limit) :
    ∃ s, Guarded.rich data eLfanew limit = pure (some s, []) ∧
      Decodes data padding key entries s := by
  have inside := (Bytes.matchesAt_iff.1 laidOut.behind).1
  rw [size_wordFields, List.length_cons, List.length_cons, List.length_nil] at inside
  have marker : marker? data (min (min eLfanew data.size) (Header.dosSize + limit) - 4) =
      some (64 + padding + (16 + 8 * entries.length)) :=
    marker?_laidOut laidOut (by simp only [Header.dosSize]; omega)
  have decoded := decodeAt?_laidOut laidOut
  refine ⟨_, ?_, decodes_laidOut laidOut decoded⟩
  rw [Guarded.rich_eq, read]
  simp only [marker, decoded]

/-- A DOS header of zeros but for its letters, a word of padding, and a table with one entry that is
masked with the key of its linker. -/
def smallStub : Bytes := List.toArray <|
  [0x4D, 0x5A] ++ List.replicate 62 0 ++ [0x0E, 0x1F, 0xBA, 0x0E] ++
    (fieldBytes (wordFields ((tableWords [⟨0x104, 30795, 12⟩]).map (· ^^^ 0x4784B4F9)))).toList ++
    (fieldBytes (wordFields [markerWord, 0x4784B4F9])).toList

theorem small_table_is_decoded :
    LaidOut smallStub 4 0x4784B4F9 [⟨0x104, 30795, 12⟩] ∧
      ∃ s, Guarded.rich smallStub 100 36 = pure (some s, []) ∧
        Decodes smallStub 4 0x4784B4F9 [⟨0x104, 30795, 12⟩] s ∧ s.checksumValid ∧
        s.versionCount 30795 none = 12 := by
  have laidOut : LaidOut smallStub 4 0x4784B4F9 [⟨0x104, 30795, 12⟩] := by
    constructor
    · rfl
    · decide +kernel
    · decide +kernel
    · refine ⟨by decide, List.forall_mem_singleton.2 ?_⟩
      constructor <;> decide
    · intro i hi
      obtain rfl : i = 0 := by omega
      decide +kernel
    · decide
    · decide
  obtain ⟨s, found, decodes⟩ := laid_out_table_is_decoded laidOut
    (show (64 + (4 : Nat) + (16 + 8 * (1 : Nat)) + 8 : Int) ≤ 100 by decide)
    (show (64 + (4 : Nat) + (16 + 8 * (1 : Nat)) + 8 : Int) ≤ 64 + 36 by decide)
  refine ⟨laidOut, s, found, decodes, ?_, ?_⟩
  · rw [decodes.checksumValid]
    decide +kernel
  · rw [decodes.versionCount]
    rfl

end Rich

end PeFacts
