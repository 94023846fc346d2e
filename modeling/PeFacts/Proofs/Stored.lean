import PeFacts.Imphash
import PeFacts.Text.Decoding

/-!
# Text that stands in a buffer

How a text is written, in ASCII before a zero byte or in UTF-16, and that the readers of
`Text/Decoding.lean` read it back. Of a text before a zero the readers see all or nothing: the zero
that ends it stands before the bound or not (`cString?_eq`, `utf16ZString?_eq`).
-/

namespace PeFacts

/-- A name as it is written in ASCII: letters, none of them zero, and not without letters. -/
structure IsName (name : String) : Prop where
  nonempty : name ≠ ""
  letters : ∀ c ∈ name.toList, 0 < c.toNat ∧ c.toNat < 128

/-- A name in ASCII with the zero byte that ends it. -/
def nameBytes (name : String) : Bytes := Imphash.asciiBytes name ++ #[0]

/-- The UTF-16 code units of a character. -/
def utf16Units (c : Char) : List Nat :=
  if c.toNat < 0x10000 then [c.toNat]
  else [0xD800 + (c.toNat - 0x10000) / 0x400, 0xDC00 + (c.toNat - 0x10000) % 0x400]

/-- The UTF-16 code units of a text. -/
def codeUnits (text : String) : List Nat := text.toList.flatMap utf16Units

/-- How many UTF-16 code units a text takes. -/
def utf16Length (text : String) : Nat := (codeUnits text).length

/-- The two bytes of a code unit, the low one first. -/
def unitBytes (u : Nat) : List UInt8 := [(u % 256).toUInt8, (u / 256).toUInt8]

/-- A text in UTF-16. -/
def utf16Bytes (text : String) : Bytes := ((codeUnits text).flatMap unitBytes).toArray

namespace Bytes

variable {data part part' : Bytes} {off : Nat}

theorem matchesAt_iff : data.matchesAt part off = true ↔
    off + part.size ≤ data.size ∧ data.extract off (off + part.size) = part := by
  simp [matchesAt]

theorem byte_of_matchesAt (h : data.matchesAt part off) {i : Nat} (hi : i < part.size) :
    data.byte (off + i) = part.byte i := by
  obtain ⟨inside, letters⟩ := matchesAt_iff.1 h
  unfold byte
  have same : part[i]? = data[off + i]? := by
    rw [← letters, Array.getElem?_extract_of_lt (by omega), Array.getElem?_eq_getElem]
  rw [Array.getD_eq_getD_getElem?, Array.getD_eq_getD_getElem?, same]

theorem number_of_matchesAt (h : data.matchesAt part off) {i width : Nat}
    (hi : i + width ≤ part.size) : data.number (off + i) width = part.number i width := by
  apply number_congr
  intro k hk
  rw [Nat.add_assoc]
  exact byte_of_matchesAt h (by omega)

/-- What stands in two parts, one after the other, stands there as a whole. -/
theorem matchesAt_append_iff :
    data.matchesAt (part ++ part') off = true ↔
      data.matchesAt part off = true ∧ data.matchesAt part' (off + part.size) = true := by
  simp only [matchesAt_iff, Array.size_append]
  constructor
  · rintro ⟨inside, letters⟩
    have split : data.extract off (off + (part.size + part'.size)) =
        data.extract off (off + part.size) ++
          data.extract (off + part.size) (off + part.size + part'.size) := by
      rw [Array.extract_append_extract]
      congr 1 <;> omega
    rw [split] at letters
    obtain ⟨first, second⟩ := Array.append_inj letters (by simp; omega)
    exact ⟨⟨by omega, first⟩, by omega, second⟩
  · rintro ⟨⟨-, first⟩, inside, second⟩
    refine ⟨by omega, ?_⟩
    rw [← first, ← second, Array.extract_append_extract]
    simp only [Array.size_extract]
    congr 1 <;> omega

/-! ## Text before a zero byte -/

/-- The search for a zero byte finds the first one if it comes that far. -/
theorem zeroByte?_eq {k : Nat} (zero : data.byte (off + k) = 0)
    (first : ∀ i < k, data.byte (off + i) ≠ 0) (count : Nat) :
    data.zeroByte? off count = if k < count then some (off + k) else none := by
  induction count generalizing off k with
  | zero => rfl
  | succ count ih =>
    rw [zeroByte?]
    cases k with
    | zero => rw [if_pos (by simpa using zero), if_pos (by omega)]; rfl
    | succ k =>
      have other : data.byte off ≠ 0 := by simpa using first 0 (by omega)
      have shift (i : Nat) : off + 1 + i = off + (i + 1) := by omega
      have next : data.zeroByte? (off + 1) count =
          if k < count then some (off + (k + 1)) else none := by
        rw [ih (by rw [shift]; exact zero) fun i hi => by rw [shift]; exact first (i + 1) (by omega),
          shift]
      rw [if_neg other, next]
      simp only [Nat.add_lt_add_iff_right]

/-- A text whose zero byte is the `k`-th byte is read if the bound comes that far. -/
theorem cString?_eq {k : Nat} (zero : data.byte (off + k) = 0)
    (first : ∀ i < k, data.byte (off + i) ≠ 0) (inside : off + k < data.size) {maxLength : Int}
    (forward : 0 ≤ maxLength) :
    data.cString? off maxLength =
      if (k : Int) < maxLength then some (asciiText (data.extract off (off + k)).toList)
      else none := by
  unfold cString?
  have window : cut data.size (min data.size (off + maxLength)) - off =
      min (data.size - off) maxLength.toNat := by
    unfold cut
    split <;> omega
  rw [if_neg (by omega)]
  simp only [window, zeroByte?_eq zero first]
  by_cases short : (k : Int) < maxLength
  · rw [if_pos short, if_pos (by omega), Option.map_some]
  · rw [if_neg short, if_neg (by omega), Option.map_none]

/-- What the search for a zero byte finds is the first one. -/
theorem zeroByte?_eq_some {count nul : Nat} (found : data.zeroByte? off count = some nul) :
    ∃ k < count, nul = off + k ∧ data.byte nul = 0 ∧ ∀ i < k, data.byte (off + i) ≠ 0 := by
  induction count generalizing off with
  | zero => cases found
  | succ count ih =>
    rw [zeroByte?] at found
    split at found
    next zero =>
      cases found
      exact ⟨0, Nat.succ_pos count, rfl, zero, nofun⟩
    next other =>
      obtain ⟨k, before, nul_eq, zero, first⟩ := ih found
      refine ⟨k + 1, Nat.succ_lt_succ before, by omega, zero, fun i hi => ?_⟩
      cases i with
      | zero => exact other
      | succ i =>
        have later := first i (by omega)
        rwa [Nat.add_assoc, Nat.add_comm 1 i] at later

/-- A text stands at `off`: bytes that are not zero, then a zero byte, which is one of the first
`maxLength` bytes. -/
def TextAt (data : Bytes) (off : Nat) (maxLength : Int) (text : String) : Prop :=
  ∃ length : Nat, (length : Int) < maxLength ∧ off + length < data.size ∧
    data.byte (off + length) = 0 ∧ (∀ i < length, data.byte (off + i) ≠ 0) ∧
    text = asciiText (data.extract off (off + length)).toList

/-- A text is read just where it stands, for bounds that do not count back from the end. -/
theorem cString?_eq_some_iff {maxLength : Int} (forward : 0 ≤ maxLength) {text : String} :
    data.cString? off maxLength = some text ↔ data.TextAt off maxLength text := by
  constructor
  · intro read
    unfold cString? at read
    split at read
    · cases read
    · obtain ⟨nul, found, rfl⟩ := Option.map_eq_some_iff.1 read
      obtain ⟨k, before, rfl, zero, first⟩ := zeroByte?_eq_some found
      unfold cut at before
      refine ⟨k, ?_, ?_, zero, first, rfl⟩ <;> split at before <;> omega
  · rintro ⟨length, short, inside, zero, first, rfl⟩
    rw [cString?_eq zero first inside forward, if_pos short]

/-- An ASCII character takes the byte of its number. -/
theorem toNat_asciiByte {c : Char} (h : c.toNat < 128) :
    (if c.toNat < 128 then c.toNat.toUInt8 else 63).toNat = c.toNat := by
  rw [if_pos h, Nat.toUInt8_eq, UInt8.toNat_ofNat']
  omega

theorem asciiText_asciiBytes {name : String} (h : ∀ c ∈ name.toList, c.toNat < 128) :
    asciiText (Imphash.asciiBytes name).toList = name := by
  unfold asciiText Imphash.asciiBytes
  rw [List.map_map]
  have kept : name.toList.map _ = name.toList.map id :=
    List.map_congr_left (f := (fun b : UInt8 => if b.toNat < 128 then Char.ofNat b.toNat
      else replacement) ∘ fun c : Char => if c.toNat < 128 then c.toNat.toUInt8 else 63) fun c hc => by
        rw [Function.comp_apply, toNat_asciiByte (h c hc), if_pos (h c hc), Char.ofNat_toNat]
        rfl
  rw [kept, List.map_id, String.ofList_toList]

/-- A name that stands in a buffer is read, if it is shorter than the bound. -/
theorem cString?_of_name {name : String} (plain : IsName name)
    (stored : data.matchesAt (nameBytes name) off) {maxLength : Int}
    (short : (name.length : Int) < maxLength) : data.cString? off maxLength = some name := by
  have size : (Imphash.asciiBytes name).size = name.length := by
    simp [Imphash.asciiBytes, String.length_toList]
  obtain ⟨letters, ended⟩ := matchesAt_append_iff.1 stored
  rw [size] at ended
  obtain ⟨inside, same⟩ := matchesAt_iff.1 letters
  have zero : data.byte (off + name.length) = 0 := byte_of_matchesAt ended (i := 0) (by simp)
  have first : ∀ i < name.length, data.byte (off + i) ≠ 0 := by
    intro i hi
    rw [byte_of_matchesAt letters (by omega)]
    have there : i < name.toList.length := by rwa [String.length_toList]
    have letter : (Imphash.asciiBytes name).byte i = name.toList[i].toNat := by
      rw [← toNat_asciiByte (plain.letters _ (List.getElem_mem there)).2]
      simp [byte, Imphash.asciiBytes, there]
    have positive := (plain.letters _ (List.getElem_mem there)).1
    omega
  rw [size] at inside same
  have room : off + name.length < data.size := (matchesAt_iff.1 ended).1
  rw [cString?_eq zero first room (by omega), if_pos short, same,
    asciiText_asciiBytes fun c hc => (plain.letters c hc).2]

end Bytes

/-! ## UTF-16 -/

theorem toNat_valid (c : Char) :
    c.toNat < 0xD800 ∨ 0xDFFF < c.toNat ∧ c.toNat < 0x110000 := c.valid

theorem toNat_unitBytes {u : Nat} (h : u < 0x10000) :
    (u % 256).toUInt8.toNat + 256 * (u / 256).toUInt8.toNat = u := by
  simp only [Nat.toUInt8_eq, UInt8.toNat_ofNat']
  omega

/-- A unit that is no surrogate is a character. -/
theorem utf16Chars_unit {u : Nat} (h : u < 0xD800 ∨ 0xDFFF < u) (small : u < 0x10000)
    (rest : List UInt8) : utf16Chars (unitBytes u ++ rest) = Char.ofNat u :: utf16Chars rest := by
  have notHigh : isHighSurrogate u = false := by
    simp only [isHighSurrogate, Bool.and_eq_false_iff, decide_eq_false_iff_not]
    omega
  have notLow : isLowSurrogate u = false := by
    simp only [isLowSurrogate, Bool.and_eq_false_iff, decide_eq_false_iff_not]
    omega
  rw [unitBytes, List.cons_append, List.cons_append, List.nil_append, utf16Chars.eq_def]
  simp only [toNat_unitBytes small, notHigh, notLow, Bool.false_eq_true, if_false]

/-- A high surrogate and a low one are a character. -/
theorem utf16Chars_pair {high low : Nat} (hh : 0xD800 ≤ high ∧ high < 0xDC00)
    (hl : 0xDC00 ≤ low ∧ low < 0xE000) (rest : List UInt8) :
    utf16Chars (unitBytes high ++ (unitBytes low ++ rest)) = pairChar high low :: utf16Chars rest := by
  have isHigh : isHighSurrogate high = true := by
    simp only [isHighSurrogate, Bool.and_eq_true, decide_eq_true_eq]
    omega
  have isLow : isLowSurrogate low = true := by
    simp only [isLowSurrogate, Bool.and_eq_true, decide_eq_true_eq]
    omega
  have high_bytes := toNat_unitBytes (u := high) (by omega)
  have low_bytes := toNat_unitBytes (u := low) (by omega)
  simp only [unitBytes, List.cons_append, List.nil_append]
  rw [utf16Chars]
  simp only [high_bytes, low_bytes, isHigh, isLow, if_true]

/-- Decoding the code units of characters gives the characters back. -/
theorem utf16Chars_flatMap (cs : List Char) :
    utf16Chars ((cs.flatMap utf16Units).flatMap unitBytes) = cs := by
  induction cs with
  | nil => rfl
  | cons c cs ih =>
    have valid := toNat_valid c
    rw [List.flatMap_cons, List.flatMap_append, utf16Units]
    split
    next one =>
      rw [List.flatMap_cons, List.flatMap_nil, List.append_nil, utf16Chars_unit (by omega) one, ih,
        Char.ofNat_toNat]
    next two =>
      rw [List.flatMap_cons, List.flatMap_cons, List.flatMap_nil, List.append_nil, List.append_assoc,
        utf16Chars_pair (by omega) (by omega), ih, pairChar]
      have number : 0x10000 + (0xD800 + (c.toNat - 0x10000) / 0x400 - 0xD800) * 0x400 +
          (0xDC00 + (c.toNat - 0x10000) % 0x400 - 0xDC00) = c.toNat := by omega
      rw [number, Char.ofNat_toNat]

theorem utf16Text_utf16Bytes (text : String) : utf16Text (utf16Bytes text) = text := by
  rw [utf16Text, utf16Bytes, codeUnits, utf16Chars_flatMap, String.ofList_toList]

theorem lt_of_mem_codeUnits {text : String} {u : Nat} (h : u ∈ codeUnits text) : u < 0x10000 := by
  obtain ⟨c, -, hu⟩ := List.mem_flatMap.1 h
  have valid := toNat_valid c
  unfold utf16Units at hu
  split at hu
  · rw [List.mem_singleton.1 hu]
    assumption
  · simp only [List.mem_cons, List.not_mem_nil, or_false] at hu
    omega

/-- Only the zero character has a zero unit. -/
theorem ne_zero_of_mem_codeUnits {text : String} (h : '\x00' ∉ text.toList) {u : Nat}
    (hu : u ∈ codeUnits text) : u ≠ 0 := by
  obtain ⟨c, hc, hu⟩ := List.mem_flatMap.1 hu
  have other : c.toNat ≠ 0 := by
    intro zero
    have same : c = '\x00' := Char.toNat_inj.1 zero
    exact h (same ▸ hc)
  unfold utf16Units at hu
  split at hu
  · rw [List.mem_singleton.1 hu]
    exact other
  · simp only [List.mem_cons, List.not_mem_nil, or_false] at hu
    omega

theorem length_unitBytes_flatMap (us : List Nat) : (us.flatMap unitBytes).length = 2 * us.length := by
  induction us with
  | nil => rfl
  | cons u us ih =>
    rw [List.flatMap_cons, List.length_append, ih]
    simp only [unitBytes, List.length_cons, List.length_nil]
    omega

theorem size_utf16Bytes (text : String) : (utf16Bytes text).size = 2 * utf16Length text := by
  rw [utf16Bytes, List.size_toArray, length_unitBytes_flatMap, utf16Length]

/-- The `i`-th unit stands after `i` units of two bytes. -/
theorem number_unitBytes_flatMap {us : List Nat} (small : ∀ u ∈ us, u < 0x10000) {i : Nat}
    (hi : i < us.length) : Bytes.number (us.flatMap unitBytes).toArray (2 * i) 2 = us[i] := by
  induction us generalizing i with
  | nil => cases hi
  | cons u us ih =>
    cases i with
    | zero =>
      have value := toNat_unitBytes (small u (by simp))
      simpa [Bytes.number, Bytes.byte, unitBytes] using value
    | succ i =>
      rw [List.getElem_cons_succ, ← ih (fun v hv => small v (by simp [hv])) (by simpa using hi)]
      simp [Bytes.number, Bytes.byte, unitBytes, Nat.mul_add, Array.getD_eq_getD_getElem?]

namespace Bytes

variable {data : Bytes} {off : Nat}

/-- The search for a zero unit finds the first one if it comes that far. -/
theorem zeroUnit?_eq {k : Nat} (zero : data.number (off + 2 * k) 2 = 0)
    (first : ∀ i < k, data.number (off + 2 * i) 2 ≠ 0) (count : Nat) :
    data.zeroUnit? off count = if k < count then some (off + 2 * k) else none := by
  induction count generalizing off k with
  | zero => rfl
  | succ count ih =>
    rw [zeroUnit?]
    cases k with
    | zero => rw [if_pos (by simpa using zero), if_pos (by omega)]; rfl
    | succ k =>
      have other : data.number off 2 ≠ 0 := by simpa using first 0 (by omega)
      have shift (i : Nat) : off + 2 + 2 * i = off + 2 * (i + 1) := by omega
      have next : data.zeroUnit? (off + 2) count =
          if k < count then some (off + 2 * (k + 1)) else none := by
        rw [ih (by rw [shift]; exact zero) fun i hi => by rw [shift]; exact first (i + 1) (by omega),
          shift]
      rw [if_neg other, next]
      simp only [Nat.add_lt_add_iff_right]

theorem number_of_utf16 {text : String} (stored : data.matchesAt (utf16Bytes text) off) {i : Nat}
    (hi : i < utf16Length text) : data.number (off + 2 * i) 2 = (codeUnits text)[i] := by
  have size := size_utf16Bytes text
  rw [number_of_matchesAt stored (by omega)]
  exact number_unitBytes_flatMap (fun u hu => lt_of_mem_codeUnits hu) hi

/-- A text with a zero unit after it is read if its units and that one fit into the bound. -/
theorem utf16ZString?_eq {text : String} (noZero : '\x00' ∉ text.toList)
    (stored : data.matchesAt (utf16Bytes text ++ #[0, 0]) off) {limit : Nat}
    (room : off + 2 * utf16Length text + 2 ≤ limit) (inside : limit ≤ data.size) (maxChars : Int) :
    data.utf16ZString? off maxChars (some (limit : Int)) =
      if (utf16Length text : Int) < maxChars then some (text, 2 * utf16Length text + 2)
      else none := by
  obtain ⟨letters, ended⟩ := matchesAt_append_iff.1 stored
  rw [size_utf16Bytes] at ended
  have zero : data.number (off + 2 * utf16Length text) 2 = 0 :=
    number_of_matchesAt ended (i := 0) (by simp)
  have first : ∀ i < utf16Length text, data.number (off + 2 * i) 2 ≠ 0 := by
    intro i hi
    rw [number_of_utf16 letters hi]
    exact ne_zero_of_mem_codeUnits noZero (List.getElem_mem hi)
  have same : utf16Text (data.extract off (off + 2 * utf16Length text)) = text := by
    rw [← size_utf16Bytes, (matchesAt_iff.1 letters).2, utf16Text_utf16Bytes]
  have count : ((min (min (limit : Int) data.size) (off + maxChars * 2) - off).toNat / 2) =
      min ((limit - off) / 2) maxChars.toNat := by omega
  simp only [utf16ZString?, Option.elim_some, count, zeroUnit?_eq zero first]
  by_cases short : (utf16Length text : Int) < maxChars
  · rw [if_pos short, if_pos (by omega), Option.map_some, same]
    congr 2
    omega
  · rw [if_neg short, if_neg (by omega), Option.map_none]

/-- A text with the count of its units before it is read if that is no more than the bound. -/
theorem utf16Counted?_of_stored {text : String} (counted : data.u16? off = some (utf16Length text))
    (stored : data.matchesAt (utf16Bytes text) (off + 2)) {maxChars : Int}
    (short : (utf16Length text : Int) ≤ maxChars) :
    data.utf16Counted? off maxChars = some text := by
  obtain ⟨inside, same⟩ := matchesAt_iff.1 stored
  rw [size_utf16Bytes] at inside same
  have span : data.span? (off + 2) (utf16Length text * 2) = some (utf16Bytes text) := by
    rw [Nat.mul_comm]
    exact span?_eq_some_iff.2 ⟨inside, same⟩
  simp only [utf16Counted?, counted, Option.bind_eq_bind, Option.bind_some, span, Option.map_some,
    utf16Text_utf16Bytes]
  exact if_neg (by omega)

end Bytes

end PeFacts
