import PeFacts.Guarded.VersionInfo
import PeFacts.Proofs.Stored

/-!
# Version information as it is laid out

Version information is written as blocks inside blocks: the root with a binary value, in it groups of
string tables and of binary leaves, in a table its strings. `RowAt` says that blocks stand side by
side, each at a multiple of four, and `Closes` that the length of a block counts the padding after its
content or does not. Reading gives back the first value of every key, up to the bound:
`laid_out_version_info_is_read`. One block is `siblings_block`; a row of blocks of one kind takes one
step for each of them (`Steps.row`), and a block that holds a row does what the row does
(`siblings_container`).
-/

namespace PeFacts.VersionInfo

open Address

/-- A string table. -/
structure StringTable where
  key : String
  pairs : List (String × String)

/-- A group of blocks in the root. -/
inductive Group
  | strings (tables : List StringTable)
  | vars (leaves : List (String × Bytes))

/-- What version information says. -/
structure Document where
  fixed : Bytes
  groups : List Group

/-- The pairs of a group, in the order in which they are declared. -/
def Group.pairs : Group → List (String × String)
  | strings tables => tables.flatMap (·.pairs)
  | vars _ => []

/-- All pairs, in the order in which they are declared. -/
def Document.pairs (doc : Document) : List (String × String) := doc.groups.flatMap (·.pairs)

/-- The pairs whose key does not occur before. -/
def firstValues : List (String × String) → List (String × String)
  | [] => []
  | p :: rest => p :: (firstValues rest).filter (·.1 ≠ p.1)

/-! ## Layout -/

/-- Where the value of a block ends; a block without a value ends with its header. -/
def Block.valueEnd (b : Block) : Nat :=
  if b.valueSize = 0 then b.headerEnd else b.valueOffset + b.valueSize

/-- A block whose content ends at `content` may or may not count the padding after it. -/
def Closes (content stop : Nat) : Prop := stop = content ∨ stop = align4 content

instance (content stop : Nat) : Decidable (Closes content stop) :=
  inferInstanceAs (Decidable (stop = content ∨ stop = align4 content))

/-- The blocks of `xs` stand side by side after `before`, each at the next multiple of four, and the
last one ends at `stop`. -/
inductive RowAt {α : Type} (Stands : Nat → α → Nat → Prop) : Nat → List α → Nat → Prop
  | nil (before : Nat) : RowAt Stands before [] before
  | cons {before middle stop : Nat} {x : α} {xs : List α} (first : Stands (align4 before) x middle)
      (rest : RowAt Stands middle xs stop) : RowAt Stands before (x :: xs) stop

/-- A block stands at `off` with its value. `Inside` says what it holds between the end of its value
and the end of its content. -/
structure BlockAt (data : Bytes) (off : Nat) (b : Block) (value : Bytes)
    (Inside : Nat → Nat → Prop) : Prop where
  length : data.u16? off = some (b.stop - off)
  valueLength : data.u16? (off + 2) = some b.valueLength
  type : ∃ type, data.u16? (off + 4) = some type ∧ b.isText = (type == 1)
  noZero : '\x00' ∉ b.key.toList
  key : data.matchesAt (utf16Bytes b.key ++ #[0, 0]) (off + 6)
  headerEnd : b.headerEnd = off + 6 + (2 * utf16Length b.key + 2)
  valueSize : b.valueSize = value.size
  value : value ≠ #[] → data.matchesAt value b.valueOffset
  inside : ∃ content, b.valueEnd ≤ content ∧ Inside b.valueEnd content ∧ Closes content b.stop

section Layout

variable (data : Bytes) (bounds : Bounds)

/-- A string stands at `off`: a text value with a zero unit after it, under a key that is none of a
container. -/
structure StringAt (off : Nat) (pair : String × String) (stop : Nat) : Prop where
  stands : ∃ b, BlockAt data off b (utf16Bytes pair.2 ++ #[0, 0]) Eq ∧
    b.key = pair.1 ∧ b.isText = true ∧ b.stop = stop
  fact : pair.1 ∉ containerKeys
  key : (utf16Length pair.1 : Int) < bounds.maxKeyChars
  value : (utf16Length pair.2 : Int) ≤ bounds.maxValueChars
  last : pair.2.toList.getLast? ≠ some '\x00'

/-- A leaf with a binary value stands at `off`. -/
def BinaryAt (off : Nat) (leaf : String × Bytes) (stop : Nat) : Prop :=
  ∃ b, BlockAt data off b leaf.2 Eq ∧ b.key = leaf.1 ∧ b.isText = false ∧ b.stop = stop

/-- A block without a value stands at `off` and holds a row of blocks. -/
def ContainerAt {α : Type} (Stands : Nat → α → Nat → Prop) (off : Nat) (key : String) (xs : List α)
    (stop : Nat) : Prop :=
  ∃ b, BlockAt data off b #[] (RowAt Stands · xs ·) ∧ b.key = key ∧ b.stop = stop

/-- A table of strings stands at `off`. -/
structure TableAt (off : Nat) (table : StringTable) (stop : Nat) : Prop where
  stands : ContainerAt data (StringAt data bounds) off table.key table.pairs stop
  key : (utf16Length table.key : Int) < bounds.maxKeyChars

/-- A group stands at `off`. -/
def GroupAt (off : Nat) : Group → (stop : Nat) → Prop
  | .strings tables, stop => ContainerAt data (TableAt data bounds) off "StringFileInfo" tables stop
  | .vars leaves, stop => ContainerAt data (BinaryAt data) off "VarFileInfo" leaves stop

/-- The version information stands in the buffer, from its first byte on. -/
structure Document.LaidOut (doc : Document) : Prop where
  stands : ∃ b, BlockAt data 0 b doc.fixed (RowAt (GroupAt data bounds) · doc.groups ·) ∧
    b.key = "VS_VERSION_INFO" ∧ b.stop ≤ data.size
  key : 16 ≤ bounds.maxKeyChars

end Layout

/-! ## Alignment -/

theorem le_align4 (n : Nat) : n ≤ align4 n := by
  unfold align4
  omega

theorem align4_align4 (n : Nat) : align4 (align4 n) = align4 n := by
  unfold align4
  omega

theorem Closes.le {content stop : Nat} (h : Closes content stop) : content ≤ stop := by
  rcases h with rfl | rfl
  · exact Nat.le_refl _
  · exact le_align4 _

theorem Closes.le_align4 {content stop : Nat} (h : Closes content stop) : stop ≤ align4 content := by
  rcases h with rfl | rfl
  · exact VersionInfo.le_align4 _
  · exact Nat.le_refl _

/-- The blocks inside begin where the value ends, rounded up. -/
theorem Block.childrenOffset_eq (b : Block) : b.childrenOffset = align4 b.valueEnd := by
  unfold childrenOffset valueEnd
  split
  next empty => rw [empty, Nat.add_zero, valueOffset, align4_align4]
  · rfl

theorem Block.headerEnd_le (b : Block) : b.headerEnd ≤ b.valueEnd := by
  unfold valueEnd valueOffset
  have up := le_align4 b.headerEnd
  split <;> omega

/-! ## One block -/

variable {data : Bytes} {bounds : Bounds} {off limit : Nat} {b : Block} {value : Bytes}
  {Inside : Nat → Nat → Prop}

namespace BlockAt

theorem long (h : BlockAt data off b value Inside) :
    off + 8 + 2 * utf16Length b.key ≤ b.stop := by
  obtain ⟨content, grows, -, closes⟩ := h.inside
  have stop := closes.le
  have header := b.headerEnd_le
  have taken := h.headerEnd
  omega

/-- A block that stands in the buffer is read if its key is shorter than the bound. -/
theorem read (h : BlockAt data off b value Inside) (room : b.stop ≤ limit)
    (inside : limit ≤ data.size) (maxKeyChars : Int) : block? data off limit maxKeyChars =
      if (utf16Length b.key : Int) < maxKeyChars then some b else none := by
  obtain ⟨type, typed, isText⟩ := h.type
  have long := h.long
  have taken := h.headerEnd
  have stop : off + (b.stop - off) = b.stop := by omega
  have short : ¬ b.stop - off < 6 := by omega
  have fits : ¬ b.stop > limit := by omega
  have key : data.utf16ZString? (off + 6) maxKeyChars (some (b.stop : Int)) =
      if (utf16Length b.key : Int) < maxKeyChars then some (b.key, 2 * utf16Length b.key + 2)
      else none := Bytes.utf16ZString?_eq h.noZero h.key (by omega) (by omega) maxKeyChars
  unfold block?
  rw [if_neg (by omega)]
  simp only [h.length, h.valueLength, typed, Option.bind_eq_bind, Option.bind_some, stop, short,
    fits, decide_false, Bool.or_self, Bool.false_eq_true, if_false, key]
  by_cases small : (utf16Length b.key : Int) < maxKeyChars
  · simp only [small, if_true, Option.bind_some, ← isText, ← taken]
    rfl
  · simp only [small, if_false, Option.bind_none]

/-- A block that holds no others is not looked into. -/
theorem childless (h : BlockAt data off b value Eq) : ¬ b.childrenOffset < b.stop := by
  obtain ⟨content, -, rfl, closes⟩ := h.inside
  have stop := closes.le_align4
  rw [b.childrenOffset_eq]
  omega

end BlockAt

/-- What a block does to the pairs: its value is kept, then what it holds is read. -/
def absorb (data : Bytes) (bounds : Bounds) (inside : Nat → Nat → Pairs → Pairs) (b : Block)
    (pairs : Pairs) : Pairs :=
  if b.childrenOffset < b.stop then
    inside b.childrenOffset b.stop (keepValue data bounds b pairs)
  else keepValue data bounds b pairs

variable {inside : Nat → Nat → Pairs → Pairs}

/-- Reading goes on behind a block. -/
theorem siblings_block (h : BlockAt data off b value Inside) (room : b.stop ≤ limit)
    (buffer : limit ≤ data.size) (short : (utf16Length b.key : Int) < bounds.maxKeyChars)
    (fuel : Nat) (pairs : Pairs) : siblings data bounds inside limit (fuel + 1) off pairs =
      siblings data bounds inside limit fuel (align4 b.stop)
        (absorb data bounds inside b pairs) := by
  rw [siblings, h.read room buffer, if_pos short]
  rfl

/-- Only a text value is kept. -/
theorem keepValue_of_valueSize (empty : b.valueSize = 0) (pairs : Pairs) :
    keepValue data bounds b pairs = pairs := by
  have none_there : b.valueLength = 0 := by
    unfold Block.valueSize at empty
    split at empty <;> omega
  simp [keepValue, none_there]

theorem keepValue_of_not_isText (binary : b.isText = false) (pairs : Pairs) :
    keepValue data bounds b pairs = pairs := by
  simp [keepValue, binary]

/-! ## One string -/

/-- No pair with this key is kept yet. -/
def isNew (pairs : Pairs) (key : String) : Bool := !pairs.found.any (·.1 == key)

/-- Keeps a pair if its key is new and there is room. -/
def keepPair (bounds : Bounds) (pairs : Pairs) (pair : String × String) : Pairs :=
  if (pairs.found.size : Int) < bounds.maxPairs && isNew pairs pair.1 then pairs.keep pair
  else pairs

theorem utf16Bytes_push (text : String) :
    utf16Bytes (text.push '\x00') = utf16Bytes text ++ #[0, 0] := by
  have units : codeUnits (text.push '\x00') = codeUnits text ++ [0] := by
    simp [codeUnits, utf16Units]
  simp [utf16Bytes, units, unitBytes]

theorem trimZeros_of_last {text : String} (last : text.toList.getLast? ≠ some '\x00') :
    trimZeros text = text := by
  have head : (text.toList.reverse).dropWhile (· == '\x00') = text.toList.reverse := by
    rw [← List.head?_reverse] at last
    cases letters : text.toList.reverse with
    | nil => rfl
    | cons c rest =>
      rw [letters, List.head?_cons] at last
      have other : (c == '\x00') = false := by simpa using last
      simp [other]
  rw [trimZeros, head, List.reverse_reverse, String.ofList_toList]

theorem trimZeros_push (text : String) : trimZeros (text.push '\x00') = trimZeros text := by
  simp [trimZeros]

/-- The value of a string is cut behind its last unit or behind the zero unit, which is trimmed. -/
theorem text_of_stored {text : String} {maxChars : Int} (isText : b.isText = true)
    (size : b.valueSize = (utf16Bytes text ++ #[0, 0]).size)
    (stored : data.matchesAt (utf16Bytes text ++ #[0, 0]) b.valueOffset)
    (room : b.valueOffset + b.valueSize ≤ b.stop) (short : (utf16Length text : Int) ≤ maxChars)
    (last : text.toList.getLast? ≠ some '\x00') : b.text data maxChars = text := by
  have bytes : (utf16Bytes text ++ #[0, 0]).size = 2 * utf16Length text + 2 := by
    rw [Array.size_append, size_utf16Bytes]
    rfl
  have units : b.valueLength * 2 = 2 * utf16Length text + 2 := by
    rw [← bytes, ← size, Block.valueSize, if_pos isText]
  have cut : (min (min ((b.valueLength : Int) * 2) (maxChars * 2))
      (b.stop - b.valueOffset)).toNat =
      if (utf16Length text : Int) = maxChars then 2 * utf16Length text
      else 2 * utf16Length text + 2 := by
    split <;> omega
  unfold Block.text
  dsimp only
  rw [cut]
  split
  · have letters := (Bytes.matchesAt_iff.1 (Bytes.matchesAt_append_iff.1 stored).1).2
    rw [size_utf16Bytes] at letters
    rw [Bytes.clamped, letters, utf16Text_utf16Bytes, trimZeros_of_last last]
  · have whole := (Bytes.matchesAt_iff.1 stored).2
    rw [bytes] at whole
    rw [Bytes.clamped, whole, ← utf16Bytes_push, utf16Text_utf16Bytes, trimZeros_push,
      trimZeros_of_last last]

/-- Reading a block of a kind that ends at `limit` or before does `keep` to the pairs and goes on
behind the block. -/
def Steps {α : Type} (data : Bytes) (bounds : Bounds) (inside : Nat → Nat → Pairs → Pairs)
    (limit : Nat) (Stands : Nat → α → Nat → Prop) (keep : Pairs → α → Pairs) : Prop :=
  ∀ off x stop, Stands off x stop → stop ≤ limit → ∀ fuel pairs,
    siblings data bounds inside limit (fuel + 1) off pairs =
      siblings data bounds inside limit fuel (align4 stop) (keep pairs x)

theorem steps_string (buffer : limit ≤ data.size) :
    Steps data bounds inside limit (StringAt data bounds) (keepPair bounds) := by
  intro off pair stop h room fuel pairs
  obtain ⟨b, stands, key, isText, rfl⟩ := h.stands
  have some_value : utf16Bytes pair.2 ++ #[0, 0] ≠ #[] := by simp
  have size : 0 < b.valueSize := by
    rw [stands.valueSize]
    exact Array.size_pos_iff.2 some_value
  have long : 0 < b.valueLength := by
    unfold Block.valueSize at size
    split at size <;> omega
  have inside_block : b.valueOffset + b.valueSize ≤ b.stop := by
    obtain ⟨content, grows, -, closes⟩ := stands.inside
    have stop := closes.le
    rw [Block.valueEnd, if_neg (by omega)] at grows
    omega
  have text : b.text data bounds.maxValueChars = pair.2 :=
    text_of_stored isText stands.valueSize (stands.value some_value) inside_block h.value h.last
  have fact : containerKeys.contains pair.1 = false := by simpa using h.fact
  have kept : absorb data bounds inside b pairs = keepPair bounds pairs pair := by
    rw [absorb, if_neg stands.childless, keepValue, keepPair, isNew, key, text, fact, isText]
    simp [long]
  rw [siblings_block stands room buffer (key ▸ h.key), kept]

/-! ## Rows of blocks -/

/-- Every block of a kind takes some bytes. -/
def Grows {α : Type} (Stands : Nat → α → Nat → Prop) : Prop :=
  ∀ off x stop, Stands off x stop → off < stop

theorem StringAt.grows : Grows (StringAt data bounds) := by
  intro off pair stop h
  obtain ⟨b, stands, -, -, rfl⟩ := h.stands
  have long := stands.long
  omega

theorem BinaryAt.grows : Grows (BinaryAt data) := by
  intro off leaf stop h
  obtain ⟨b, stands, -, -, rfl⟩ := h
  have long := stands.long
  omega

theorem ContainerAt.grows {α : Type} {Stands : Nat → α → Nat → Prop} {xs : List α} {key : String}
    {stop : Nat} (h : ContainerAt data Stands off key xs stop) : off < stop := by
  obtain ⟨b, stands, -, rfl⟩ := h
  have long := stands.long
  omega

theorem TableAt.grows : Grows (TableAt data bounds) := by
  intro off table stop h
  exact h.stands.grows

theorem GroupAt.grows : Grows (GroupAt data bounds) := by
  intro off group stop h
  cases group with
  | strings tables => exact ContainerAt.grows h
  | vars leaves => exact ContainerAt.grows h

section Row

variable {α : Type} {Stands : Nat → α → Nat → Prop} {xs : List α} {before content : Nat}

/-- A row takes a byte or more for each of its blocks. -/
theorem RowAt.length_le (grows : Grows Stands) (row : RowAt Stands before xs content) :
    before + xs.length ≤ content := by
  induction row with
  | nil => exact Nat.le_refl _
  | @cons before middle stop x xs first rest ih =>
    have here := grows _ _ _ first
    have up := le_align4 before
    rw [List.length_cons]
    omega

/-- Behind the end of a block no more blocks are read. -/
theorem siblings_end (h : limit ≤ off) (fuel : Nat) (pairs : Pairs) :
    siblings data bounds inside limit fuel off pairs = pairs := by
  cases fuel with
  | zero => rfl
  | succ fuel =>
    have no_block : block? data off limit bounds.maxKeyChars = none := by
      unfold block?
      exact if_pos (by omega)
    rw [siblings, no_block]

/-- A row of blocks does what its blocks do, one after the other. -/
theorem Steps.row {keep : Pairs → α → Pairs} (step : Steps data bounds inside limit Stands keep)
    (grows : Grows Stands) (row : RowAt Stands before xs content) (closes : Closes content limit)
    {fuel : Nat} (enough : xs.length ≤ fuel) (pairs : Pairs) :
    siblings data bounds inside limit fuel (align4 before) pairs = xs.foldl keep pairs := by
  induction row generalizing fuel pairs with
  | nil => exact siblings_end closes.le_align4 fuel pairs
  | @cons before middle stop x xs first rest ih =>
    obtain ⟨fuel, rfl⟩ := Nat.exists_eq_add_one_of_ne_zero (show fuel ≠ 0 by
      rw [List.length_cons] at enough
      omega)
    have room : middle ≤ limit := by
      have tail := rest.length_le grows
      have stop := closes.le
      omega
    rw [step _ x middle first room, ih closes (by simpa using enough), List.foldl_cons]

/-- Leaves with binary values are no facts. One with a key that is too long ends the row. -/
theorem siblings_binary {leaves : List (String × Bytes)}
    (row : RowAt (BinaryAt data) before leaves content) (closes : Closes content limit)
    (buffer : limit ≤ data.size) (fuel : Nat) (pairs : Pairs) :
    siblings data bounds inside limit fuel (align4 before) pairs = pairs := by
  induction row generalizing fuel with
  | nil => exact siblings_end closes.le_align4 fuel pairs
  | @cons before middle stop leaf leaves first rest ih =>
    obtain ⟨b, stands, -, binary, rfl⟩ := first
    have room : b.stop ≤ limit := by
      have tail := rest.length_le BinaryAt.grows
      have stop := closes.le
      omega
    cases fuel with
    | zero => rfl
    | succ fuel =>
      by_cases short : (utf16Length b.key : Int) < bounds.maxKeyChars
      · have kept : absorb data bounds inside b pairs = pairs := by
          rw [absorb, if_neg stands.childless, keepValue_of_not_isText binary]
        rw [siblings_block stands room buffer short, kept]
        exact ih closes fuel
      · rw [siblings, stands.read room buffer, if_neg short]

end Row

/-! ## Blocks that hold rows -/

/-- What a block holds is read like a row that begins behind its value. -/
theorem nested_row {α : Type} {Stands : Nat → α → Nat → Prop} {xs : List α} {levels : Nat}
    (h : BlockAt data off b value (RowAt Stands · xs ·)) (grows : Grows Stands)
    {pairs after : Pairs} (reads : ∀ content fuel, RowAt Stands b.valueEnd xs content →
      Closes content b.stop → xs.length ≤ fuel →
        siblings data bounds (blocks data bounds levels) b.stop fuel (align4 b.valueEnd) pairs =
          after) :
    (if b.childrenOffset < b.stop then
      blocks data bounds (levels + 1) b.childrenOffset b.stop pairs else pairs) = after := by
  obtain ⟨content, -, row, closes⟩ := h.inside
  have length := row.length_le grows
  have stop := closes.le
  split
  · rw [blocks, b.childrenOffset_eq, align4_align4]
    exact reads content (b.stop + 1) row closes (by omega)
  next childless =>
    -- Behind the value there is at most padding, so the row is empty and reading it adds nothing.
    have empty : xs.length = 0 := by
      rw [b.childrenOffset_eq] at childless
      cases row with
      | nil => rfl
      | cons first rest =>
        have here := grows _ _ _ first
        have tail := rest.length_le grows
        omega
    rw [← reads content 0 row closes (by omega)]
    rfl

/-- A container does to the pairs what the row in it does. -/
theorem siblings_container {α : Type} {Stands : Nat → α → Nat → Prop} {xs : List α} {levels : Nat}
    {key : String} {stop : Nat} (h : ContainerAt data Stands off key xs stop) (room : stop ≤ limit)
    (buffer : limit ≤ data.size) (short : (utf16Length key : Int) < bounds.maxKeyChars)
    (grows : Grows Stands) {pairs after : Pairs}
    (reads : ∀ before content fuel, RowAt Stands before xs content → Closes content stop →
      xs.length ≤ fuel → siblings data bounds (blocks data bounds levels) stop fuel (align4 before)
        pairs = after) (fuel : Nat) :
    siblings data bounds (blocks data bounds (levels + 1)) limit (fuel + 1) off pairs =
      siblings data bounds (blocks data bounds (levels + 1)) limit fuel (align4 stop) after := by
  obtain ⟨b, stands, rfl, rfl⟩ := h
  have nothing : keepValue data bounds b pairs = pairs :=
    keepValue_of_valueSize stands.valueSize pairs
  have nested := nested_row stands grows (fun content fuel => reads _ content fuel)
  rw [siblings_block stands room buffer short, absorb, nothing, nested]

theorem steps_table {levels : Nat} (buffer : limit ≤ data.size) :
    Steps data bounds (blocks data bounds (levels + 1)) limit (TableAt data bounds)
      fun pairs table => table.pairs.foldl (keepPair bounds) pairs := by
  intro off table stop h room fuel pairs
  apply siblings_container h.stands room buffer h.key StringAt.grows
  intro before content fuel row closes enough
  have step : Steps data bounds (blocks data bounds levels) stop (StringAt data bounds)
      (keepPair bounds) := steps_string (Nat.le_trans room buffer)
  exact step.row StringAt.grows row closes enough pairs

theorem steps_group {levels : Nat} (wide : 16 ≤ bounds.maxKeyChars) (buffer : limit ≤ data.size) :
    Steps data bounds (blocks data bounds (levels + 2)) limit (GroupAt data bounds)
      fun pairs group => group.pairs.foldl (keepPair bounds) pairs := by
  intro off group stop h room fuel pairs
  have inside_buffer := Nat.le_trans room buffer
  cases group with
  | strings tables =>
    have short : (utf16Length "StringFileInfo" : Int) < bounds.maxKeyChars :=
      Int.lt_of_lt_of_le (by decide) wide
    apply siblings_container h room buffer short TableAt.grows
    intro before content fuel row closes enough
    show _ = (tables.flatMap (·.pairs)).foldl (keepPair bounds) pairs
    rw [List.foldl_flatMap]
    exact (steps_table inside_buffer).row TableAt.grows row closes enough pairs
  | vars leaves =>
    have short : (utf16Length "VarFileInfo" : Int) < bounds.maxKeyChars :=
      Int.lt_of_lt_of_le (by decide) wide
    apply siblings_container h room buffer short BinaryAt.grows
    intro before content fuel row closes _
    exact siblings_binary row closes inside_buffer fuel pairs

/-! ## The pairs that are kept -/

theorem isNew_keep (pairs : Pairs) (pair : String × String) (key : String) :
    isNew (pairs.keep pair) key = (isNew pairs key && decide (key ≠ pair.1)) := by
  rw [isNew, isNew, Reading.keep, Array.any_push]
  by_cases same : pair.1 = key
  · simp [same]
  · simp [same, Ne.symm same]

/-- The pairs that are kept are the first ones with keys that are new, as many as there is room
for. -/
theorem foldl_keepPair (ps : List (String × String)) (r : Pairs) :
    (ps.foldl (keepPair bounds) r).problems = r.problems ∧
    (ps.foldl (keepPair bounds) r).found.toList = r.found.toList ++
      ((firstValues ps).filter fun p => isNew r p.1).take
        (bounds.maxPairs.toNat - r.found.size) := by
  induction ps generalizing r with
  | nil => simp [firstValues]
  | cons p rest ih =>
    obtain ⟨problems, found⟩ := ih (keepPair bounds r p)
    rw [List.foldl_cons, firstValues, List.filter_cons, List.filter_filter, problems, found]
    unfold keepPair
    cases new : isNew r p.1 with
    | false =>
      -- A pair with the key of `p` is kept already, so `p` and all others with its key are left out.
      have others : (firstValues rest).filter (fun q => isNew r q.1 && decide (q.1 ≠ p.1)) =
          (firstValues rest).filter fun q => isNew r q.1 := by
        refine List.filter_congr fun q _ => ?_
        by_cases same : q.1 = p.1
        · rw [same, new]
          rfl
        · simp [same]
      rw [others]
      simp
    | true =>
      by_cases room : (r.found.size : Int) < bounds.maxPairs
      · have left : bounds.maxPairs.toNat - r.found.size =
            bounds.maxPairs.toNat - (r.found.size + 1) + 1 := by omega
        have size : (r.keep p).found.size = r.found.size + 1 := Array.size_push _
        have kept : (r.keep p).found.toList = r.found.toList ++ [p] := Array.toList_push
        simp only [room, decide_true, Bool.and_self, if_true, isNew_keep, size, kept, left,
          List.take_succ_cons, List.append_assoc, List.singleton_append, and_true]
        rfl
      · have left : bounds.maxPairs.toNat - r.found.size = 0 := by omega
        simp [room, left]

theorem nodup_firstValues (ps : List (String × String)) :
    (firstValues ps).Pairwise fun p q => p.1 ≠ q.1 := by
  induction ps with
  | nil => exact .nil
  | cons p rest ih =>
    refine List.pairwise_cons.2 ⟨fun q hq => ?_, ih.filter _⟩
    have other : q.1 ≠ p.1 := by simpa using (List.mem_filter.1 hq).2
    exact other.symm

/-- Pairs with different keys are sorted strictly. -/
theorem sortPairs_of_distinct {ps : List (String × String)}
    (distinct : ps.Pairwise fun p q => p.1 ≠ q.1) :
    (sortPairs ps).Perm ps ∧ (sortPairs ps).Pairwise fun p q => p.1 < q.1 := by
  have perm : (sortPairs ps).Perm ps := List.mergeSort_perm ps _
  have sorted : (sortPairs ps).Pairwise fun p q => decide (p.1 ≤ q.1) = true := by
    apply List.pairwise_mergeSort
    · intro p q r pq qr
      exact decide_eq_true (String.le_trans (of_decide_eq_true pq) (of_decide_eq_true qr))
    · intro p q
      simpa using String.le_total p.1 q.1
  have different : (sortPairs ps).Pairwise fun p q => p.1 ≠ q.1 :=
    perm.symm.pairwise distinct fun ne => ne.symm
  refine ⟨perm, (sorted.and different).imp fun {p q} ⟨le, ne⟩ => ?_⟩
  exact String.not_le.1 fun ge => ne (String.le_antisymm (of_decide_eq_true le) ge)

/-- The blocks in the root leave the pairs that are kept. -/
theorem nested_groups {doc : Document}
    (h : BlockAt data off b value (RowAt (GroupAt data bounds) · doc.groups ·))
    (wide : 16 ≤ bounds.maxKeyChars) (buffer : b.stop ≤ data.size) (pairs : Pairs) :
    (if b.childrenOffset < b.stop then
      blocks data bounds (maxNesting + 1) b.childrenOffset b.stop pairs else pairs) =
        doc.pairs.foldl (keepPair bounds) pairs := by
  apply nested_row h GroupAt.grows
  intro content fuel row closes enough
  rw [Document.pairs, List.foldl_flatMap]
  exact (steps_group wide buffer).row GroupAt.grows row closes enough pairs

/-- Version information that is laid out is read as the first values of its keys, in the order in which
they are declared and as many as there is room for, sorted by key, with nothing to report; and so it
is by the guarded reader. -/
theorem laid_out_version_info_is_read (data : Bytes) (bounds : Bounds) (doc : Document)
    (laid : doc.LaidOut data bounds) :
    ∃ pairs, read data bounds = (pairs, []) ∧ Guarded.versionPairs data bounds = pure (pairs, []) ∧
      pairs.Perm ((firstValues doc.pairs).take bounds.maxPairs.toNat) ∧
      pairs.Pairwise fun p q => p.1 < q.1 := by
  obtain ⟨b, stands, key, inside⟩ := laid.stands
  have short : (utf16Length b.key : Int) < bounds.maxKeyChars := by
    rw [key]
    exact Int.lt_of_lt_of_le (by decide) laid.key
  have root : block? data 0 data.size bounds.maxKeyChars = some b := by
    rw [stands.read inside (Nat.le_refl _), if_pos short]
  obtain ⟨problems, found⟩ := @foldl_keepPair bounds doc.pairs {}
  have first : (doc.pairs.foldl (keepPair bounds) {}).found.toList =
      (firstValues doc.pairs).take bounds.maxPairs.toNat := by
    have all_new : (firstValues doc.pairs).filter (fun p => isNew {} p.1) = firstValues doc.pairs :=
      List.filter_eq_self.2 fun p _ => by simp [isNew]
    rw [found, all_new]
    rfl
  have answer : read data bounds =
      (sortPairs ((firstValues doc.pairs).take bounds.maxPairs.toNat), []) := by
    have nested := nested_groups stands laid.key inside {}
    rw [read, root]
    dsimp only
    rw [if_neg (fun other => other key), ← first]
    split at nested
    next held =>
      rw [if_pos held, nested, problems]
    next childless =>
      rw [if_neg childless, ← nested]
      simp [sortPairs]
  obtain ⟨perm, sorted⟩ := sortPairs_of_distinct (nodup_firstValues doc.pairs).take
  exact ⟨_, answer, by rw [Guarded.versionPairs_eq, answer], perm, sorted⟩

/-- One table, in which a key occurs twice and one value is empty, and one leaf beside it. -/
def smallDocument : Document where
  fixed := #[1, 2, 3, 4]
  groups := [.strings [⟨"0", [("b", "😀"), ("a", ""), ("b", "x")]⟩], .vars [("T", #[9, 4])]]

/-- The bytes of `smallDocument`. The second string and the last group count the padding after
them. -/
def smallDocumentBytes : Bytes :=
  #[192, 0, 4, 0, 0, 0] ++ utf16Bytes "VS_VERSION_INFO" ++ #[0, 0, 0, 0, 1, 2, 3, 4] ++
  #[100, 0, 0, 0, 0, 0] ++ utf16Bytes "StringFileInfo" ++ #[0, 0] ++
  #[64, 0, 0, 0, 0, 0] ++ utf16Bytes "0" ++ #[0, 0, 0, 0] ++
  #[18, 0, 3, 0, 1, 0] ++ utf16Bytes "b" ++ #[0, 0, 0, 0] ++ utf16Bytes "😀" ++ #[0, 0, 0, 0] ++
  #[16, 0, 1, 0, 1, 0] ++ utf16Bytes "a" ++ #[0, 0, 0, 0, 0, 0, 0, 0] ++
  #[16, 0, 2, 0, 1, 0] ++ utf16Bytes "b" ++ #[0, 0, 0, 0] ++ utf16Bytes "x" ++ #[0, 0] ++
  #[48, 0, 0, 0, 0, 0] ++ utf16Bytes "VarFileInfo" ++ #[0, 0, 0, 0] ++
  #[14, 0, 2, 0, 0, 0] ++ utf16Bytes "T" ++ #[0, 0, 0, 0, 9, 4, 0, 0]

theorem small_version_info_is_read : smallDocument.LaidOut smallDocumentBytes {} ∧
    ∃ pairs, read smallDocumentBytes {} = (pairs, []) ∧ pairs.Perm [("b", "😀"), ("a", "")] ∧
      pairs.Pairwise fun p q => p.1 < q.1 := by
  have block {Inside : Nat → Nat → Prop} (off : Nat) (b : Block) (value : Bytes) (content : Nat)
      (facts : smallDocumentBytes.u16? off = some (b.stop - off) ∧
        smallDocumentBytes.u16? (off + 2) = some b.valueLength ∧
        smallDocumentBytes.u16? (off + 4) = some b.isText.toNat ∧ '\x00' ∉ b.key.toList ∧
        smallDocumentBytes.matchesAt (utf16Bytes b.key ++ #[0, 0]) (off + 6) ∧
        b.headerEnd = off + 6 + (2 * utf16Length b.key + 2) ∧ b.valueSize = value.size ∧
        smallDocumentBytes.matchesAt value b.valueOffset ∧ b.valueEnd ≤ content ∧
        Closes content b.stop)
      (inside : Inside b.valueEnd content) : BlockAt smallDocumentBytes off b value Inside := by
    obtain ⟨length, valueLength, type, noZero, key, headerEnd, size, stored, ends, closes⟩ := facts
    exact ⟨length, valueLength, ⟨_, type, by cases b.isText <;> rfl⟩, noZero, key, headerEnd, size,
      fun _ => stored, content, ends, inside, closes⟩
  have string (off : Nat) (pair : String × String) (b : Block)
      (stands : BlockAt smallDocumentBytes off b (utf16Bytes pair.2 ++ #[0, 0]) Eq)
      (facts : (b.key = pair.1 ∧ b.isText = true) ∧ pair.1 ∉ containerKeys ∧
        utf16Length pair.1 < 200 ∧ utf16Length pair.2 ≤ 2000 ∧
        pair.2.toList.getLast? ≠ some '\x00') :
      StringAt smallDocumentBytes {} off pair b.stop := by
    obtain ⟨⟨key, text⟩, fact, short, long, last⟩ := facts
    exact ⟨⟨b, stands, key, text, rfl⟩, fact, Int.ofNat_lt.2 short, Int.ofNat_le.2 long, last⟩
  have first : StringAt smallDocumentBytes {} 92 ("b", "😀") 110 :=
    string 92 _ ⟨3, true, "b", 102, 110⟩ (block _ _ _ 110 (by decide +kernel) rfl) (by decide)
  have second : StringAt smallDocumentBytes {} 112 ("a", "") 128 :=
    string 112 _ ⟨1, true, "a", 122, 128⟩ (block _ _ _ 126 (by decide +kernel) rfl) (by decide)
  have third : StringAt smallDocumentBytes {} 128 ("b", "x") 144 :=
    string 128 _ ⟨2, true, "b", 138, 144⟩ (block _ _ _ 144 (by decide +kernel) rfl) (by decide)
  have table : TableAt smallDocumentBytes {} 80 ⟨"0", [("b", "😀"), ("a", ""), ("b", "x")]⟩ 144 :=
    ⟨⟨⟨0, false, "0", 90, 144⟩, block _ _ _ 144 (by decide +kernel)
      (.cons first (.cons second (.cons third (.nil _)))), rfl, rfl⟩, by decide⟩
  have leaf : BinaryAt smallDocumentBytes 176 ("T", #[9, 4]) 190 :=
    ⟨⟨2, false, "T", 186, 190⟩, block _ _ _ 190 (by decide +kernel) rfl, rfl, rfl, rfl⟩
  have strings : GroupAt smallDocumentBytes {} 44
      (.strings [⟨"0", [("b", "😀"), ("a", ""), ("b", "x")]⟩]) 144 :=
    ⟨⟨0, false, "StringFileInfo", 80, 144⟩, block _ _ _ 144 (by decide +kernel)
      (.cons table (.nil _)), rfl, rfl⟩
  have vars : GroupAt smallDocumentBytes {} 144 (.vars [("T", #[9, 4])]) 192 :=
    ⟨⟨0, false, "VarFileInfo", 174, 192⟩, block _ _ _ 190 (by decide +kernel)
      (.cons leaf (.nil _)), rfl, rfl⟩
  have laid : smallDocument.LaidOut smallDocumentBytes {} :=
    ⟨⟨⟨4, false, "VS_VERSION_INFO", 38, 192⟩, block _ _ _ 192 (by decide +kernel)
      (.cons strings (.cons vars (.nil _))), rfl, by decide +kernel⟩, by decide⟩
  obtain ⟨pairs, read, -, perm, sorted⟩ := laid_out_version_info_is_read _ _ _ laid
  exact ⟨laid, pairs, read, perm, sorted⟩

end PeFacts.VersionInfo
