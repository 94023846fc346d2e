import PeFacts.Proofs.Mapping.Header
import PeFacts.Proofs.Session

/-!
# The window of the rich header

A table of tools is looked for before the other headers, in the first bytes after the DOS header. The
search keeps four bytes free for the key; where the other headers begin before position 4 nothing is
left, the bound of the search falls below zero, and counts from the end of the buffer. These are the
only images whose table may lie outside the window: `rich_header_in_window_iff`. For all others the
table depends on nothing behind the window.
-/

namespace PeFacts

/-- The table with its marker and key lies between the DOS header and `stop`. -/
def RichSignature.Within (s : RichSignature) (stop : Int) : Prop :=
  64 ≤ s.offset ∧ (s.offset + s.length + 8 : Int) ≤ stop

instance (s : RichSignature) (stop : Int) : Decidable (s.Within stop) :=
  inferInstanceAs (Decidable (_ ∧ _))

namespace Rich

variable {data data' : Bytes} {n : Nat}

/-! ## What is found -/

theorem markerFrom_eq_some {off count place : Nat} (found : markerFrom data off count = some place) :
    ∃ k < count, place = off + 4 * k ∧ data.matchesAt marker place := by
  induction count generalizing off with
  | zero => cases found
  | succ count ih =>
    rw [markerFrom] at found
    split at found
    next here =>
      cases found
      exact ⟨0, Nat.succ_pos count, rfl, here⟩
    · obtain ⟨k, before, place_eq, there⟩ := ih found
      exact ⟨k + 1, Nat.succ_lt_succ before, by omega, there⟩

theorem start?_eq_some {key words start : Nat} (found : start? data key words = some start) :
    ∃ k < words, start = 64 + 4 * k ∧ data.number start 4 ^^^ key = startWord ∧
      ∀ i, k < i → i < words → data.number (64 + 4 * i) 4 ^^^ key ≠ startWord := by
  induction words with
  | zero => cases found
  | succ words ih =>
    rw [start?] at found
    split at found
    next here =>
      cases found
      exact ⟨words, Nat.lt_succ_self words, rfl, here, fun i after before => by omega⟩
    next other =>
      obtain ⟨k, before, start_eq, there, last⟩ := ih found
      refine ⟨k, Nat.lt_succ_of_lt before, start_eq, there, fun i after less => ?_⟩
      rcases Nat.lt_succ_iff_lt_or_eq.1 less with inside | rfl
      · exact last i after inside
      · exact other

/-- The table reaches from its start to the marker, and the key is behind that. -/
theorem decodeAt?_eq_some {place : Nat} {s : RichSignature} (behind : 64 ≤ place)
    (found : decodeAt? data place = some s) :
    64 ≤ s.offset ∧ s.offset + s.length = place ∧ place + 8 ≤ data.size := by
  unfold decodeAt? at found
  simp only [Option.bind_eq_bind, Option.bind_eq_some_iff] at found
  obtain ⟨key, key_read, start, started, same⟩ := found
  obtain ⟨inside, -⟩ := Bytes.number?_eq_some_iff.1 key_read
  obtain ⟨k, before, rfl, -⟩ := start?_eq_some started
  simp only [Header.dosSize] at before
  cases same
  refine ⟨Nat.le_add_right 64 _, ?_, by omega⟩
  simp only [Array.size_extract]
  omega

/-- A bound of the search that is not below zero is kept, and so is the end of the buffer in any
case. -/
theorem marker?_eq_some {stop : Int} {place : Nat} (found : marker? data stop = some place) :
    64 ≤ place ∧ (0 ≤ stop → (place + 4 : Int) ≤ stop) := by
  obtain ⟨k, before, rfl, -⟩ := markerFrom_eq_some found
  simp only [Bytes.cut, Header.dosSize] at before ⊢
  refine ⟨Nat.le_add_right 64 _, fun forward => ?_⟩
  split at before
  · omega
  · omega

/-- A table that is read is in the buffer; it is in the window if the other headers leave room for a
key before them. -/
theorem within_of_read {eLfanew : Nat} {limit : Int} (forward : 0 ≤ limit) {s : RichSignature}
    (found : (read data eLfanew limit).1 = some s) :
    s.Within data.size ∧
      (4 ≤ eLfanew → s.Within (min eLfanew (min data.size (64 + limit)))) := by
  unfold read at found
  dsimp only at found
  split at found
  next place marked =>
    obtain ⟨behind, kept⟩ := marker?_eq_some marked
    obtain ⟨after, ended, inside⟩ := decodeAt?_eq_some behind found
    simp only [Header.dosSize] at kept
    refine ⟨⟨after, by omega⟩, fun room => ⟨after, ?_⟩⟩
    omega
  · cases found

/-! ## What it depends on -/

theorem markerFrom_of_alike (alike : data.Alike data' 0 0 n) {off count : Nat}
    (room : off + 4 * count ≤ n) : markerFrom data' off count = markerFrom data off count := by
  induction count generalizing off with
  | zero => rfl
  | succ count ih =>
    have letters : marker.size = 4 := rfl
    rw [markerFrom, markerFrom, Bytes.matchesAt_of_alike alike (by omega), ih (by omega)]

theorem start?_of_alike (alike : data.Alike data' 0 0 n) {key words : Nat}
    (room : 64 + 4 * words ≤ n) : start? data' key words = start? data key words := by
  induction words with
  | zero => rfl
  | succ words ih =>
    rw [start?, start?, Bytes.number_of_alike alike (by simp only [Header.dosSize]; omega),
      ih (by omega)]

theorem checksum_of_alike (alike : data.Alike data' 0 0 n) {start : Nat} (room : start ≤ n)
    (entries : List RichEntry) : checksum data' start entries = checksum data start entries := by
  have byte {i : Nat} (hi : i < start) : data'.byte i = data.byte i := by
    have same := alike.bytes i (by omega)
    rw [Nat.zero_add] at same
    exact same.symm
  have bytes : (List.range start).foldl (fun sum i =>
      if Header.eLfanewOffset ≤ i ∧ i < Header.eLfanewOffset + 4 then sum
      else (sum + rotateLeft (data'.byte i) i) % 0x100000000) start =
      (List.range start).foldl (fun sum i =>
        if Header.eLfanewOffset ≤ i ∧ i < Header.eLfanewOffset + 4 then sum
        else (sum + rotateLeft (data.byte i) i) % 0x100000000) start := by
    refine List.foldl_ext _ _ _ fun sum i hi => ?_
    rw [byte (List.mem_range.1 hi)]
  unfold checksum
  rw [bytes]

theorem decodeAt?_of_alike (alike : data.Alike data' 0 0 n) {place : Nat} (room : place + 8 ≤ n)
    (behind : 64 ≤ place) : decodeAt? data' place = decodeAt? data place := by
  have key : data'.u32? (place + 4) = data.u32? (place + 4) := Bytes.number?_of_alike alike (by omega)
  unfold decodeAt?
  rw [key]
  cases data.u32? (place + 4) with
  | none => rfl
  | some key =>
    simp only [Option.bind_eq_bind, Option.bind_some]
    rw [start?_of_alike alike (by simp only [Header.dosSize]; omega)]
    cases started : start? data key ((place - Header.dosSize) / 4) with
    | none => rfl
    | some start =>
      obtain ⟨k, before, rfl, -⟩ := start?_eq_some started
      simp only [Header.dosSize] at before
      simp only [Option.bind_some]
      rw [Bytes.extract_of_alike alike (by omega), checksum_of_alike alike (by omega)]

theorem marker?_of_alike (alike : data.Alike data' 0 0 n) {stop : Int} (forward : 0 ≤ stop)
    (room : stop ≤ n) (dos : 64 ≤ n) : marker? data' stop = marker? data stop := by
  have inside := alike.inside
  have inside' := alike.inside'
  have last {size : Nat} (long : n ≤ size) : Bytes.cut size (min stop size) = stop.toNat := by
    unfold Bytes.cut
    split <;> omega
  unfold marker?
  rw [last (by omega), last (by omega)]
  exact markerFrom_of_alike alike (by simp only [Header.dosSize]; omega)

/-- What stands behind the window makes no difference, and neither does the length of the buffer. -/
theorem read_of_alike {eLfanew : Nat} (alike : data.Alike data' 0 0 (max eLfanew 64)) {limit : Int}
    (forward : 0 ≤ limit) (room : 4 ≤ eLfanew) :
    read data' eLfanew limit = read data eLfanew limit := by
  have inside := alike.inside
  have inside' := alike.inside'
  have stop : min (eLfanew : Int) data.size = eLfanew := by omega
  have stop' : min (eLfanew : Int) data'.size = eLfanew := by omega
  unfold read
  simp only [stop, stop', Header.dosSize]
  rw [marker?_of_alike alike (by omega) (by omega) (by omega)]
  cases marked : marker? data (min (eLfanew : Int) (64 + limit) - 4) with
  | none => rfl
  | some place =>
    obtain ⟨behind, kept⟩ := marker?_eq_some marked
    have before := kept (by omega)
    simp only [decodeAt?_of_alike alike (show place + 8 ≤ max eLfanew 64 by omega) behind]

end Rich

/-! ## Images -/

/-- A query that is answered from the table of tools. -/
def Query.ofRich : Query → Bool
  | .fact .richSignature | .richVersion _ _ | .richTool _ _ => true
  | _ => false

/-- Two images have the same table of tools and note the same problems of it, whatever is asked
before. -/
structure Image.SameRich (i i' : Image) : Prop where
  rich : i'.readRich = i.readRich
  problems : i'.block .rich = i.block .rich
  answers : ∀ q : Query, q.ofRich → ∀ past past',
    (i'.ask q (i'.after past')).1 = (i.ask q (i.after past)).1

theorem Image.SameRich.of_reading {i i' : Image} (rich : i'.readRich = i.readRich) :
    i.SameRich i' := by
  have holding : i'.holding .rich = i.holding .rich := congrArg Except.ok rich
  refine ⟨rich, by rw [Image.block, Image.block, holding], fun q asked past past' => ?_⟩
  have both (f : Option RichSignature → Value) :
      ((do return f (← i'.content .rich) : Access Value).run.run (i'.after past')).1 =
        ((do return f (← i.content .rich) : Access Value).run.run (i.after past)).1 := by
    rw [run_view i' .rich f past', run_view i .rich f past, holding]
  cases q with
  | fact f =>
    cases f with
    | richSignature => exact both _
    | _ => cases asked
  | richVersion _ _ | richTool _ _ => exact both _
  | _ => cases asked

/-- The table of tools of an image, with its headers. -/
theorem Image.readRich_eq {data : Bytes} {mode : ScanMode} {limits : Limits}
    {reader : SignatureReader} {h : Header}
    (header : (Image.read data mode limits reader).header? = some h) :
    (Image.read data mode limits reader).readRich =
      Rich.read data h.eLfanew limits.maxRichSearch := by
  rw [Image.readRich, header]
  simp only [Image.read_data, Image.read_limits]

/-- The table of tools that an image gives is in the buffer, and it is in the window just when the
other headers do not begin before position 4. In this case nothing behind the window makes a
difference to it. -/
theorem rich_header_in_window_iff (data : Bytes) (mode : ScanMode) (limits : Limits)
    (reader : SignatureReader) (forward : 0 ≤ limits.maxRichSearch) (i : Image)
    (loaded : Image.load data mode limits reader = .ok i) (h : Header)
    (header : i.header? = some h) :
    ∃ s?, (∀ past, (i.richSignature.run.run (i.after past)).1 = .ok s?) ∧
      (∀ s ∈ s?, s.Within data.size) ∧
      ((∀ s ∈ s?, s.Within (min h.eLfanew (min data.size (64 + limits.maxRichSearch)))) ↔
        4 ≤ h.eLfanew ∨ s? = none) ∧
      (4 ≤ h.eLfanew → ∀ data' mode' reader' i' h',
        Image.load data' mode' limits reader' = .ok i' → i'.header? = some h' →
        h'.eLfanew = h.eLfanew → data.Alike data' 0 0 (max h.eLfanew 64) → i.SameRich i') := by
  rw [Image.load_eq] at loaded
  cases loaded
  have rich := Image.readRich_eq header
  have within {s : RichSignature}
      (found : (Image.read data mode limits reader).readRich.1 = some s) :=
    Rich.within_of_read forward (rich ▸ found)
  refine ⟨(Image.read data mode limits reader).readRich.1, fun past => ?_, fun s found => ?_, ?_, ?_⟩
  · exact (gives_content _ .rich).run_after past
  · exact (within found).1
  · constructor
    · intro inside
      cases found : (Image.read data mode limits reader).readRich.1 with
      | none => exact .inr rfl
      | some s =>
        obtain ⟨after, before⟩ := inside s found
        exact .inl (by omega)
    · intro room s found
      rcases room with room | none
      · exact (within found).2 room
      · rw [none] at found
        cases found
  · intro room data' mode' reader' i' h' loaded' header' same alike
    rw [Image.load_eq] at loaded'
    cases loaded'
    apply Image.SameRich.of_reading
    rw [rich, Image.readRich_eq header', same]
    exact Rich.read_of_alike alike forward room

/-- An image whose other headers begin at position 2. A table stands behind the DOS header. -/
def earlyFile : Bytes := List.toArray <|
  [0x4D, 0x5A, 0x50, 0x45, 0, 0, 0x4C, 1] ++ List.replicate 18 0 ++ [0x0B, 1] ++
    List.replicate 32 0 ++ [2, 0, 0, 0, 0x44, 0x61, 0x6E, 0x53] ++ List.replicate 12 0 ++
    [0x52, 0x69, 0x63, 0x68] ++ List.replicate 44 0

/-- The table is found, although no window before position 2 holds it. -/
theorem early_headers_have_no_window :
    0 ≤ ({} : Limits).maxRichSearch ∧
      ∃ i h s, Image.load earlyFile .file {} .standard = .ok i ∧ i.header? = some h ∧
        h.eLfanew = 2 ∧ (∀ past, (i.richSignature.run.run (i.after past)).1 = .ok (some s)) ∧
        s.offset = 64 ∧ s.length = 16 ∧
        ¬ s.Within (min h.eLfanew (min earlyFile.size (64 + ({} : Limits).maxRichSearch))) := by
  have forward : 0 ≤ ({} : Limits).maxRichSearch := by decide
  have located : (Image.read earlyFile).header?.map (·.eLfanew) = some 2 := by decide +kernel
  have there : (Image.read earlyFile).readRich.1.map (fun s => (s.offset, s.length)) =
      some (64, 16) := by decide +kernel
  obtain ⟨h, header, place⟩ := Option.map_eq_some_iff.1 located
  obtain ⟨s, found, offset_length⟩ := Option.map_eq_some_iff.1 there
  obtain ⟨offset, length⟩ := Prod.mk.inj offset_length
  obtain ⟨s?, gives, -, inside, -⟩ := rich_header_in_window_iff earlyFile .file {} .standard forward _
    (Image.load_eq ..) h header
  have same : s? = some s := by
    have read := (gives []).symm.trans ((gives_content _ .rich).run_after [])
    exact (Except.ok.inj read).trans found
  subst same
  refine ⟨forward, _, h, s, Image.load_eq .., header, place, gives, offset, length, fun within => ?_⟩
  have room := inside.1 fun t ht => by
    cases ht
    exact within
  rcases room with room | none
  · omega
  · cases none

end PeFacts
