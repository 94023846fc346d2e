import PeFacts.Guarded
import PeFacts.Rich

/-!
# Guarded reading of the rich header

The words of the table are unpacked, masked and packed again. The key is a word, so masking a word
gives a word: `maskWords_eq`.
-/

namespace PeFacts.Guarded

open Rich

/-- The least number that is larger than a word. -/
def wordRange : Nat := 0x100000000

/-- A word as four bytes; what is larger than a word cannot be packed. -/
def pack (w : Nat) : Guarded Bytes := if w < wordRange then return wordBytes w else throw .pack

/-- Masks `left` words, the first of which is the one at `i`. -/
def maskWordsFrom (data : Bytes) (key i : Nat) : (left : Nat) → (out : Bytes) → Guarded Bytes
  | 0, out => return out
  | left + 1, out => do
    let word ← unpack data (4 * i) 4
    maskWordsFrom data key (i + 1) left (out ++ (← pack (word ^^^ key)))

/-- Every whole word masked with a key; bytes after the last word stay. -/
def maskWords (data : Bytes) (key : Nat) : Guarded Bytes := do
  let words := data.size / 4
  return (← maskWordsFrom data key 0 words #[]) ++ data.extract (4 * words) data.size

/-- Reads `left` entries of a clear table, the first of which is the one at `i`. -/
def richEntriesFrom (clear : Bytes) (i : Nat) : (left : Nat) → Guarded (List RichEntry)
  | 0 => return []
  | left + 1 => do
    let tool ← unpack clear (16 + 8 * i) 4
    let count ← unpack clear (20 + 8 * i) 4
    return ⟨tool / 0x10000, tool % 0x10000, count⟩ :: (← richEntriesFrom clear (i + 1) left)

/-- The last of the `words` words after the DOS header that is the masked start. -/
def richStart? (data : Bytes) (key : Nat) : (words : Nat) → Guarded (Option Nat)
  | 0 => return none
  | words + 1 => do
    let off := Header.dosSize + 4 * words
    match ← number? data off 4 with
    | none => richStart? data key words
    | some word => if word ^^^ key = startWord then return some off else richStart? data key words

/-- The table whose marker stands at `off`. -/
def decodeRich? (data : Bytes) (off : Nat) : Guarded (Option RichSignature) := do
  match ← number? data (off + 4) 4 with
  | none => return none
  | some key =>
    match ← richStart? data key ((off - Header.dosSize) / 4) with
    | none => return none
    | some start =>
      let raw := data.extract start off
      let clear ← maskWords raw key
      let entries ← richEntriesFrom clear 0 ((clear.size - 16) / 8)
      return some {
        offset := start
        length := raw.size
        key
        rawData := raw
        clearData := clear
        checksumValid := checksum data start entries == key }

/-- The table before `eLfanew`, looked for in the first `limit` bytes after the DOS header, with the
problems met. -/
def rich (data : Bytes) (eLfanew : Int) (limit : Int) :
    Guarded (Option RichSignature × List Problem) := do
  let stop := min eLfanew data.size
  let window := Header.dosSize + limit
  match marker? data (min stop window - 4) with
  | some off => return (← decodeRich? data off, [])
  | none => return (none, if stop > window then [.richSearchClamped limit eLfanew] else [])

variable {data : Bytes} {key : Nat}

theorem pack_eq {w : Nat} (h : w < wordRange) : pack w = pure (wordBytes w) := if_pos h

/-- Masking a word gives a word. -/
theorem xor_lt_wordRange {a b : Nat} (ha : a < wordRange) (hb : b < wordRange) :
    a ^^^ b < wordRange := Nat.xor_lt_two_pow (n := 32) ha hb

theorem maskWordsFrom_eq (word_key : key < wordRange) {i left : Nat}
    (room : 4 * (i + left) ≤ data.size) (out : Bytes) :
    maskWordsFrom data key i left out = pure ((List.range' i left).foldl (fun out i =>
      out ++ wordBytes (data.number (4 * i) 4 ^^^ key)) out) := by
  induction left generalizing i out with
  | zero => rfl
  | succ left ih =>
    have word : data.number (4 * i) 4 < wordRange := data.number_lt (4 * i) 4
    rw [maskWordsFrom, unpack_eq (by omega), pure_bind, pack_eq (xor_lt_wordRange word word_key),
      pure_bind, ih (by omega)]
    rfl

/-- Masking with a word leaves words, which can be packed. -/
theorem maskWords_eq (word_key : key < wordRange) :
    maskWords data key = pure (Rich.maskWords data key) := by
  rw [maskWords, maskWordsFrom_eq word_key (by omega), pure_bind, ← List.range_eq_range']
  rfl

theorem richEntriesFrom_eq {i left : Nat} (room : 16 + 8 * (i + left) ≤ data.size) :
    richEntriesFrom data i left = pure ((List.range' i left).map fun i =>
      ⟨data.number (16 + 8 * i) 4 / 0x10000, data.number (16 + 8 * i) 4 % 0x10000,
        data.number (20 + 8 * i) 4⟩) := by
  induction left generalizing i with
  | zero => rfl
  | succ left ih =>
    rw [richEntriesFrom, unpack_eq (by omega), pure_bind, unpack_eq (by omega), pure_bind,
      ih (by omega)]
    rfl

theorem richEntries_eq (clear : Bytes) :
    richEntriesFrom clear 0 ((clear.size - 16) / 8) = pure (entriesOf clear) := by
  by_cases short : clear.size < 16
  · have none_there : (clear.size - 16) / 8 = 0 := by omega
    simp [none_there, richEntriesFrom, entriesOf]
  · rw [richEntriesFrom_eq (by omega), ← List.range_eq_range']
    rfl

/-- Words before the end of the buffer are all there. -/
theorem richStart?_eq {words : Nat} (room : 4 * words ≤ data.size - Header.dosSize) :
    richStart? data key words = pure (start? data key words) := by
  induction words with
  | zero => rfl
  | succ words ih =>
    rw [richStart?, number?_of_le (by omega), pure_bind, start?, ih (by omega)]
    dsimp only
    split <;> rfl

theorem decodeRich?_eq (off : Nat) : decodeRich? data off = pure (decodeAt? data off) := by
  unfold decodeRich? decodeAt?
  rw [number?_eq, pure_bind, Bytes.u32?]
  cases found : data.number? (off + 4) 4 with
  | none => rfl
  | some key =>
    obtain ⟨inside, key_eq⟩ := Bytes.number?_eq_some_iff.1 found
    have word_key : key < wordRange := key_eq ▸ data.number_lt (off + 4) 4
    have room : 4 * ((off - Header.dosSize) / 4) ≤ data.size - Header.dosSize := by omega
    simp only [richStart?_eq room, pure_bind, Option.bind_eq_bind, Option.bind_some]
    cases start? data key ((off - Header.dosSize) / 4) with
    | none => rfl
    | some start =>
      simp only [maskWords_eq word_key, richEntries_eq, pure_bind]
      rfl

/-- Reading the rich header leaves the domain of no operation. -/
theorem rich_eq (data : Bytes) (eLfanew limit : Int) :
    rich data eLfanew limit = pure (Rich.read data eLfanew limit) := by
  unfold rich Rich.read
  simp only [decodeRich?_eq, pure_bind]
  generalize marker? data _ = off?
  cases off? <;> rfl

end PeFacts.Guarded
