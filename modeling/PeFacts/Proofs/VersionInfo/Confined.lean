import Mathlib.Data.List.Basic
import PeFacts.Proofs.Mapping.Buffer
import PeFacts.Proofs.Truncation.Buffer
import PeFacts.Proofs.VersionInfo

/-!
# Version information stays inside its root

Whatever the bytes are, the reader goes from block to block in a way that the headers alone determine:
`Visits` derives what it comes to, with one rule for the end of a row, for a block that holds no others,
for one that does, and for blocks nested too deep. A derivation exists on every buffer, so neither the
rows nor the nesting go on for ever (`exists_visits`), and reading is a fold over what it comes to
(`Visits.blocks_eq`). By induction over the derivation blocks lie inside the blocks around them and are
disjoint otherwise, and two buffers that are alike up to the end of the root have the same derivations.
Main result: `version_info_is_confined`.
-/

namespace PeFacts

namespace Bytes

variable {data data' : Bytes} {off n : Nat}

/-- What the search for a zero unit finds is the first one. -/
theorem zeroUnit?_eq_some {count nul : Nat} (found : data.zeroUnit? off count = some nul) :
    ∃ k < count, nul = off + 2 * k := by
  induction count generalizing off with
  | zero => cases found
  | succ count ih =>
    rw [zeroUnit?] at found
    split at found
    · cases found
      exact ⟨0, Nat.succ_pos count, rfl⟩
    · obtain ⟨k, before, nul_eq⟩ := ih found
      exact ⟨k + 1, Nat.succ_lt_succ before, by omega⟩

theorem zeroUnit?_of_alike (alike : data.Alike data' 0 0 n) {count : Nat}
    (room : off + 2 * count ≤ n) : data'.zeroUnit? off count = data.zeroUnit? off count := by
  induction count generalizing off with
  | zero => rfl
  | succ count ih =>
    rw [zeroUnit?, zeroUnit?, number_of_alike alike (by omega), ih (by omega)]

/-- A text that must end inside a span is read alike. -/
theorem utf16ZString?_of_alike (alike : data.Alike data' 0 0 n) {limit : Nat} (room : limit ≤ n)
    (maxChars : Int) : data'.utf16ZString? off maxChars (some (limit : Int)) =
      data.utf16ZString? off maxChars (some (limit : Int)) := by
  have inside := alike.inside
  have inside' := alike.inside'
  have bound : min (min (limit : Int) data'.size) (off + maxChars * 2) =
      min (min (limit : Int) data.size) (off + maxChars * 2) := by omega
  simp only [utf16ZString?, Option.elim_some, bound]
  generalize count_eq : (min (min (limit : Int) data.size) (off + maxChars * 2) - off).toNat / 2 =
    count
  cases count with
  | zero => rfl
  | succ count =>
    rw [zeroUnit?_of_alike alike (by omega)]
    cases found : data.zeroUnit? off (count + 1) with
    | none => rfl
    | some nul =>
      obtain ⟨k, before, rfl⟩ := zeroUnit?_eq_some found
      rw [Option.map_some, Option.map_some, extract_of_alike alike (by omega)]

/-- The bytes before `n` stay when others come behind them. -/
theorem alike_extract_append (inside : n ≤ data.size) (rest : Bytes) :
    data.Alike (data.extract 0 n ++ rest) 0 0 n where
  inside := by omega
  inside' := by
    rw [Array.size_append, Array.size_extract]
    omega
  bytes i hi := by
    have kept : i < (data.extract 0 n).size := by
      rw [Array.size_extract]
      omega
    rw [Nat.zero_add, byte_append rest kept]
    unfold byte
    rw [Array.getD_eq_getD_getElem?, Array.getD_eq_getD_getElem?, Array.getElem?_extract,
      if_pos (by omega), Nat.zero_add]

end Bytes

namespace VersionInfo

open Address

variable {data data' : Bytes} {bounds : Bounds} {off limit stop n : Nat} {maxKeyChars : Int} {b : Block}

/-! ## One block -/

theorem block?_eq_some (h : block? data off limit maxKeyChars = some b) :
    ∃ length type taken, data.u16? off = some length ∧ data.u16? (off + 2) = some b.valueLength ∧
      data.u16? (off + 4) = some type ∧ 6 ≤ length ∧ off + length ≤ limit ∧
      data.utf16ZString? (off + 6) maxKeyChars (some ((off + length : Nat) : Int)) =
        some (b.key, taken) ∧
      b = ⟨b.valueLength, type == 1, b.key, off + 6 + taken, off + length⟩ := by
  unfold block? at h
  split at h
  · cases h
  · obtain ⟨length, length_eq, h⟩ := Option.bind_eq_some_iff.1 h
    obtain ⟨valueLength, valueLength_eq, h⟩ := Option.bind_eq_some_iff.1 h
    obtain ⟨type, type_eq, h⟩ := Option.bind_eq_some_iff.1 h
    split at h
    · cases h
    next long =>
      obtain ⟨⟨key, taken⟩, text, h⟩ := Option.bind_eq_some_iff.1 h
      cases h
      simp only [Bool.or_eq_true, decide_eq_true_eq, not_or] at long
      exact ⟨length, type, taken, length_eq, valueLength_eq, type_eq, by omega, by omega, text, rfl⟩

/-- Where a block must end does not matter to a block that ends there or before. -/
theorem block?_of_stop_le (h : block? data off limit maxKeyChars = some b) {limit' : Nat}
    (inside : b.stop ≤ limit') : block? data off limit' maxKeyChars = some b := by
  obtain ⟨length, type, taken, length_eq, valueLength, type_eq, long, -, text, b_eq⟩ := block?_eq_some h
  rw [b_eq] at inside ⊢
  dsimp only at inside
  have room : ¬ off + 6 > limit' := by omega
  have fits : (decide (length < 6) || decide (off + length > limit')) = false := by
    simp only [Bool.or_eq_false_iff, decide_eq_false_iff_not]
    omega
  simp only [block?, if_neg room, length_eq, valueLength, type_eq, Option.bind_eq_bind,
    Option.bind_some, fits, Bool.false_eq_true, if_false, text]
  rfl

/-- The key is decoded from the bytes between the head of the block and the end of its header. -/
theorem key_of_block? (h : block? data off limit maxKeyChars = some b) :
    off + 6 ≤ b.headerEnd - 2 ∧ b.headerEnd ≤ b.stop ∧
      b.key = utf16Text (data.extract (off + 6) (b.headerEnd - 2)) := by
  obtain ⟨length, type, taken, -, -, -, -, -, text, b_eq⟩ := block?_eq_some h
  obtain ⟨nul, found, same⟩ := Option.map_eq_some_iff.1 text
  obtain ⟨k, before, rfl⟩ := Bytes.zeroUnit?_eq_some found
  obtain ⟨key_eq, taken_eq⟩ := Prod.mk.inj same
  have headerEnd : b.headerEnd = off + 6 + taken := by rw [b_eq]
  have stop : b.stop = off + length := by rw [b_eq]
  simp only [Option.elim_some] at before
  rw [headerEnd, stop, ← key_eq]
  refine ⟨by omega, by omega, ?_⟩
  congr 2
  omega

theorem block?_of_alike (alike : data.Alike data' 0 0 n) (room : limit ≤ n) :
    block? data' off limit maxKeyChars = block? data off limit maxKeyChars := by
  unfold block?
  split
  · rfl
  · have field {i : Nat} (hi : i + 2 ≤ 6) : data'.u16? (off + i) = data.u16? (off + i) :=
      Bytes.number?_of_alike alike (by omega)
    have first : data'.u16? off = data.u16? off := field (i := 0) (by omega)
    rw [first, field (by omega), field (by omega)]
    refine bind_congr fun length => bind_congr fun valueLength => bind_congr fun type => ?_
    split
    · rfl
    next long =>
      simp only [Bool.or_eq_true, decide_eq_true_eq, not_or] at long
      rw [Bytes.utf16ZString?_of_alike alike (by omega)]

/-- The value is decoded from bytes before the end of the block. -/
theorem text_eq_extract (b : Block) (maxChars : Int) :
    ∃ i ≤ b.stop - b.valueOffset, b.text data maxChars =
      trimZeros (utf16Text (data.extract b.valueOffset (b.valueOffset + i))) :=
  ⟨_, by omega, rfl⟩

theorem text_of_alike (alike : data.Alike data' 0 0 n) (room : b.stop ≤ n) (maxChars : Int) :
    b.text data' maxChars = b.text data maxChars := by
  unfold Block.text Bytes.clamped
  dsimp only
  generalize size_eq : (min (min ((b.valueLength : Int) * 2) (maxChars * 2))
    (b.stop - b.valueOffset)).toNat = size
  cases size with
  | zero =>
    rw [Nat.add_zero, Array.extract_empty_of_stop_le_start (Nat.le_refl _),
      Array.extract_empty_of_stop_le_start (Nat.le_refl _)]
  | succ size => rw [Bytes.extract_of_alike alike (by omega)]

theorem keepValue_of_alike (alike : data.Alike data' 0 0 n) (room : b.stop ≤ n) (pairs : Pairs) :
    keepValue data' bounds b pairs = keepValue data bounds b pairs := by
  unfold keepValue
  rw [text_of_alike alike room]

/-! ## All blocks -/

/-- A block at its place. -/
structure Placed where
  off : Nat
  block : Block

/-- What reading comes to. -/
inductive Visit
  /-- A block inside the blocks of `path`, the innermost first. -/
  | block (path : List Placed) (here : Placed)
  /-- Blocks that are nested too deep. -/
  | tooDeep

/-- What reading the blocks from `off` up to `stop` comes to, in its order, with `levels` levels allowed
below the blocks of `path`. -/
inductive Visits (data : Bytes) (maxKeyChars : Int) :
    (levels : Nat) → (path : List Placed) → (off stop : Nat) → List Visit → Prop
  | tooDeep {path : List Placed} {off stop : Nat} : Visits data maxKeyChars 0 path off stop [.tooDeep]
  | ended {levels : Nat} {path : List Placed} {off stop : Nat}
      (none_there : block? data off stop maxKeyChars = none) :
      Visits data maxKeyChars (levels + 1) path off stop []
  | leaf {levels : Nat} {path : List Placed} {off stop : Nat} {b : Block} {rest : List Visit}
      (there : block? data off stop maxKeyChars = some b) (childless : ¬ b.childrenOffset < b.stop)
      (behind : Visits data maxKeyChars (levels + 1) path (align4 b.stop) stop rest) :
      Visits data maxKeyChars (levels + 1) path off stop (.block path ⟨off, b⟩ :: rest)
  | node {levels : Nat} {path : List Placed} {off stop : Nat} {b : Block} {inner rest : List Visit}
      (there : block? data off stop maxKeyChars = some b) (children : b.childrenOffset < b.stop)
      (inside : Visits data maxKeyChars levels (⟨off, b⟩ :: path) (align4 b.childrenOffset) b.stop inner)
      (behind : Visits data maxKeyChars (levels + 1) path (align4 b.stop) stop rest) :
      Visits data maxKeyChars (levels + 1) path off stop (.block path ⟨off, b⟩ :: (inner ++ rest))

theorem lt_align4_stop (h : block? data off limit maxKeyChars = some b) : off < align4 b.stop := by
  have long := (Guarded.block?_bounds h).1
  have next := le_align4 b.stop
  omega

/-- Reading comes to an end: the nesting is bounded, and the blocks of a row lie behind one another. -/
theorem exists_visits (data : Bytes) (maxKeyChars : Int) (levels : Nat) (path : List Placed)
    (off stop : Nat) : ∃ vs, Visits data maxKeyChars levels path off stop vs := by
  induction levels generalizing path off stop with
  | zero => exact ⟨_, .tooDeep⟩
  | succ levels ih =>
    induction left : stop - off using Nat.strong_induction_on generalizing off with
    | _ left row =>
      cases there : block? data off stop maxKeyChars with
      | none => exact ⟨[], .ended there⟩
      | some b =>
        have bounds := Guarded.block?_bounds there
        have next := lt_align4_stop there
        obtain ⟨rest, behind⟩ := row (stop - align4 b.stop) (by omega) (align4 b.stop) rfl
        by_cases children : b.childrenOffset < b.stop
        · obtain ⟨inner, inside⟩ := ih (⟨off, b⟩ :: path) (align4 b.childrenOffset) b.stop
          exact ⟨_, .node there children inside behind⟩
        · exact ⟨_, .leaf there children behind⟩

/-- What is made of a visit. -/
def meet (data : Bytes) (bounds : Bounds) (pairs : Pairs) : Visit → Pairs
  | .block _ v => keepValue data bounds v.block pairs
  | .tooDeep => pairs.report (.versionTooDeep (maxNesting + 1))

section Visits

variable {levels : Nat} {path : List Placed} {vs : List Visit}

theorem Visits.siblings_eq {inside : Nat → Nat → Pairs → Pairs}
    (inside_eq : ∀ {path off stop vs}, Visits data bounds.maxKeyChars levels path (align4 off) stop vs →
      ∀ pairs, inside off stop pairs = vs.foldl (meet data bounds) pairs)
    (h : Visits data bounds.maxKeyChars (levels + 1) path off stop vs) {fuel : Nat}
    (some_left : 0 < fuel) (enough : stop < off + fuel) (pairs : Pairs) :
    siblings data bounds inside stop fuel off pairs = vs.foldl (meet data bounds) pairs := by
  induction fuel generalizing off vs pairs with
  | zero => omega
  | succ fuel ih =>
    rw [siblings]
    cases h with
    | ended none_there =>
      rw [none_there]
      rfl
    | leaf there childless behind =>
      have bounds := Guarded.block?_bounds there
      have next := lt_align4_stop there
      rw [there]
      dsimp only
      rw [if_neg childless, ih behind (by omega) (by omega)]
      rfl
    | node there children inner behind =>
      have bounds := Guarded.block?_bounds there
      have next := lt_align4_stop there
      rw [there]
      dsimp only
      rw [if_pos children, inside_eq inner, ih behind (by omega) (by omega), List.foldl_cons,
        List.foldl_append]
      rfl

/-- Reading is a fold over what it comes to. -/
theorem Visits.blocks_eq (h : Visits data bounds.maxKeyChars levels path (align4 off) stop vs)
    (pairs : Pairs) :
    blocks data bounds levels off stop pairs = vs.foldl (meet data bounds) pairs := by
  induction levels generalizing path off stop vs pairs with
  | zero =>
    cases h
    rfl
  | succ levels ih => exact h.siblings_eq ih (Nat.succ_pos stop) (by omega) pairs

/-- The blocks of `path` lie around what stands from `off` up to `stop`, behind their headers and
values. -/
def Around (path : List Placed) (off stop : Nat) : Prop :=
  ∀ a ∈ path, a.off < off ∧ a.block.childrenOffset ≤ off ∧ stop ≤ a.block.stop

theorem Around.mono (h : Around path off stop) {off' stop' : Nat} (le : off ≤ off')
    (ge : stop' ≤ stop) : Around path off' stop' := by
  intro a ha
  obtain ⟨before, behind, inside⟩ := h a ha
  omega

theorem lt_childrenOffset (h : block? data off limit maxKeyChars = some b) :
    off < b.childrenOffset := by
  have key := (key_of_block? h).1
  have value := le_align4 b.headerEnd
  have children := le_align4 (b.valueOffset + b.valueSize)
  unfold Block.childrenOffset Block.valueOffset at *
  omega

theorem Around.cons (around : Around path off stop)
    (there : block? data off stop maxKeyChars = some b) :
    Around (⟨off, b⟩ :: path) (align4 b.childrenOffset) b.stop := by
  have here := lt_childrenOffset there
  have children := le_align4 b.childrenOffset
  refine List.forall_mem_cons.2 ⟨⟨by dsimp only; omega, children, Nat.le_refl _⟩, ?_⟩
  exact around.mono (by omega) (Guarded.block?_bounds there).2

/-- Blocks lie inside the blocks around them. -/
theorem Visits.around (h : Visits data maxKeyChars levels path off stop vs)
    (around : Around path off stop) {q : List Placed} {v : Placed} (met : .block q v ∈ vs) :
    off ≤ v.off ∧ v.block.stop ≤ stop ∧ Around q v.off v.block.stop ∧
      ∃ limit, block? data v.off limit maxKeyChars = some v.block := by
  induction h with
  | tooDeep => cases List.mem_singleton.1 met
  | ended => cases met
  | @leaf levels path off stop b rest there childless behind ih =>
    have bounds := Guarded.block?_bounds there
    have next := lt_align4_stop there
    rcases List.mem_cons.1 met with here | later
    · cases here
      exact ⟨Nat.le_refl _, bounds.2, around.mono (Nat.le_refl _) bounds.2, _, there⟩
    · obtain ⟨before, found⟩ := ih (around.mono (Nat.le_of_lt next) (Nat.le_refl _)) later
      exact ⟨by omega, found⟩
  | @node levels path off stop b inner rest there children inside behind ih_inside ih =>
    have bounds := Guarded.block?_bounds there
    have next := lt_align4_stop there
    rcases List.mem_cons.1 met with here | met
    · cases here
      exact ⟨Nat.le_refl _, bounds.2, around.mono (Nat.le_refl _) bounds.2, _, there⟩
    · rcases List.mem_append.1 met with below | later
      · obtain ⟨before, inside_block, found⟩ := ih_inside (around.cons there) below
        have first := lt_childrenOffset there
        have aligned := le_align4 b.childrenOffset
        exact ⟨by omega, by omega, found⟩
      · obtain ⟨before, found⟩ := ih (around.mono (Nat.le_of_lt next) (Nat.le_refl _)) later
        exact ⟨by omega, found⟩

/-- Of two blocks the later one lies behind the earlier one or inside it. -/
def Apart : Visit → Visit → Prop
  | .block _ v, .block q w => v.block.stop ≤ w.off ∨ v ∈ q
  | _, _ => True

theorem Visits.suffix (h : Visits data maxKeyChars levels path off stop vs) {q : List Placed}
    {v : Placed} (met : .block q v ∈ vs) : path <:+ q := by
  induction h with
  | tooDeep => cases List.mem_singleton.1 met
  | ended => cases met
  | leaf there childless behind ih =>
    rcases List.mem_cons.1 met with here | later
    · cases here
      exact List.suffix_refl _
    · exact ih later
  | node there children inside behind ih_inside ih =>
    rcases List.mem_cons.1 met with here | met
    · cases here
      exact List.suffix_refl _
    · rcases List.mem_append.1 met with below | later
      · exact (List.suffix_cons _ _).trans (ih_inside below)
      · exact ih later

/-- Blocks that are met one after the other are disjoint, if the later one is not inside the earlier
one. -/
theorem Visits.pairwise_apart (h : Visits data maxKeyChars levels path off stop vs)
    (around : Around path off stop) : vs.Pairwise Apart := by
  induction h with
  | tooDeep => exact List.pairwise_singleton _ _
  | ended => exact .nil
  | @leaf levels path off stop b rest there childless behind ih =>
    have around := around.mono (Nat.le_of_lt (lt_align4_stop there)) (Nat.le_refl _)
    refine List.pairwise_cons.2 ⟨fun w hw => ?_, ih around⟩
    cases w with
    | tooDeep => trivial
    | block q w => exact .inl (Nat.le_trans (le_align4 b.stop) (behind.around around hw).1)
  | @node levels path off stop b inner rest there children inside behind ih_inside ih =>
    have below := around.cons there
    have around := around.mono (Nat.le_of_lt (lt_align4_stop there)) (Nat.le_refl _)
    have later {q : List Placed} {w : Placed} (hw : .block q w ∈ rest) : b.stop ≤ w.off :=
      Nat.le_trans (le_align4 b.stop) (behind.around around hw).1
    refine List.pairwise_cons.2 ⟨fun w hw => ?_, List.pairwise_append.2
      ⟨ih_inside below, ih around, fun v hv w hw => ?_⟩⟩
    · cases w with
      | tooDeep => trivial
      | block q w =>
        rcases List.mem_append.1 hw with hw | hw
        · exact .inr ((inside.suffix hw).subset (List.mem_cons_self ..))
        · exact .inl (later hw)
    · cases v with
      | tooDeep => trivial
      | block p v =>
        cases w with
        | tooDeep => trivial
        | block q w => exact .inl (Nat.le_trans (inside.around below hv).2.1 (later hw))

/-- Every block lies next to the first blocks or inside a block that was met. -/
theorem Visits.parent (h : Visits data maxKeyChars levels path off stop vs) {q : List Placed}
    {v : Placed} (met : .block q v ∈ vs) : q = path ∨ ∃ a p, q = a :: p ∧ .block p a ∈ vs := by
  induction h with
  | tooDeep => cases List.mem_singleton.1 met
  | ended => cases met
  | leaf there childless behind ih =>
    rcases List.mem_cons.1 met with here | later
    · cases here
      exact .inl rfl
    · exact (ih later).imp_right fun ⟨a, p, q_eq, ha⟩ => ⟨a, p, q_eq, List.mem_cons_of_mem _ ha⟩
  | node there children inside behind ih_inside ih =>
    rcases List.mem_cons.1 met with here | met
    · cases here
      exact .inl rfl
    · rcases List.mem_append.1 met with below | later
      · rcases ih_inside below with rfl | ⟨a, p, q_eq, ha⟩
        · exact .inr ⟨_, _, rfl, List.mem_cons_self ..⟩
        · exact .inr ⟨a, p, q_eq, List.mem_cons_of_mem _ (List.mem_append_left _ ha)⟩
      · exact (ih later).imp_right fun ⟨a, p, q_eq, ha⟩ =>
          ⟨a, p, q_eq, List.mem_cons_of_mem _ (List.mem_append_right _ ha)⟩

/-- Buffers that are alike up to the end have the same blocks. -/
theorem Visits.of_alike (h : Visits data maxKeyChars levels path off stop vs)
    (alike : data.Alike data' 0 0 n) (room : stop ≤ n) :
    Visits data' maxKeyChars levels path off stop vs := by
  induction h with
  | tooDeep => exact .tooDeep
  | ended none_there => exact .ended ((block?_of_alike alike room).trans none_there)
  | leaf there childless behind ih =>
    exact .leaf ((block?_of_alike alike room).trans there) childless (ih room)
  | node there children inside behind ih_inside ih =>
    have inner := (Guarded.block?_bounds there).2
    exact .node ((block?_of_alike alike room).trans there) children (ih_inside (by omega)) (ih room)

end Visits

/-! ## Version information -/

/-- A pair is decoded from the bytes of a block. -/
structure DecodedFrom (data : Bytes) (v : Placed) (key value : String) : Prop where
  key : v.off + 6 ≤ v.block.headerEnd - 2 ∧ v.block.headerEnd ≤ v.block.stop ∧
    key = utf16Text (data.extract (v.off + 6) (v.block.headerEnd - 2))
  value : ∃ i j, v.off ≤ i ∧ i ≤ j ∧ j ≤ v.block.stop ∧
    value = trimZeros (utf16Text (data.extract i j))

theorem decodedFrom_of_block? {v : Placed}
    (there : block? data v.off limit maxKeyChars = some v.block) (maxChars : Int) :
    DecodedFrom data v v.block.key (v.block.text data maxChars) := by
  have key := key_of_block? there
  refine ⟨key, ?_⟩
  obtain ⟨i, short, text⟩ := @text_eq_extract data v.block maxChars
  have before := le_align4 v.block.headerEnd
  by_cases inside : v.block.valueOffset ≤ v.block.stop
  · refine ⟨v.block.valueOffset, v.block.valueOffset + i, ?_, by omega, by omega, text⟩
    unfold Block.valueOffset
    omega
  · obtain rfl : i = 0 := by omega
    refine ⟨v.block.stop, v.block.stop, by omega, Nat.le_refl _, Nat.le_refl _, ?_⟩
    rw [text, Nat.add_zero, Array.extract_empty_of_stop_le_start (Nat.le_refl _),
      Array.extract_empty_of_stop_le_start (Nat.le_refl _)]

theorem mem_keepValue {pairs : Pairs} {p : String × String}
    (mem : p ∈ (keepValue data bounds b pairs).found) :
    p ∈ pairs.found ∨ p = (b.key, b.text data bounds.maxValueChars) := by
  unfold keepValue at mem
  split at mem
  · exact (Array.mem_push.1 mem)
  · exact .inl mem

theorem mem_foldl_meet {vs : List Visit} {pairs : Pairs} {p : String × String}
    (mem : p ∈ (vs.foldl (meet data bounds) pairs).found) :
    p ∈ pairs.found ∨
      ∃ q v, .block q v ∈ vs ∧ p = (v.block.key, v.block.text data bounds.maxValueChars) := by
  induction vs generalizing pairs with
  | nil => exact .inl mem
  | cons w vs ih =>
    rcases ih mem with before | ⟨q, v, hv, p_eq⟩
    · cases w with
      | tooDeep => exact .inl before
      | block q v =>
        exact (mem_keepValue before).imp_right fun p_eq => ⟨q, v, List.mem_cons_self .., p_eq⟩
    · exact .inr ⟨q, v, List.mem_cons_of_mem _ hv, p_eq⟩

theorem foldl_meet_of_alike {vs : List Visit} (alike : data.Alike data' 0 0 n)
    (inside : ∀ q v, .block q v ∈ vs → v.block.stop ≤ n) (pairs : Pairs) :
    vs.foldl (meet data' bounds) pairs = vs.foldl (meet data bounds) pairs := by
  refine List.foldl_ext _ _ _ fun pairs w hw => ?_
  cases w with
  | tooDeep => rfl
  | block q v => exact keepValue_of_alike alike (inside q v hw) pairs

/-- What reading comes to below the root. -/
def Inside (data : Bytes) (bounds : Bounds) (root : Block) (vs : List Visit) : Prop :=
  (root.key = "VS_VERSION_INFO" ∧ root.childrenOffset < root.stop) ∧
      Visits data bounds.maxKeyChars (maxNesting + 1) [⟨0, root⟩] (align4 root.childrenOffset)
        root.stop vs ∨
    ¬ (root.key = "VS_VERSION_INFO" ∧ root.childrenOffset < root.stop) ∧ vs = []

/-- Reading goes through the blocks inside the root, and nothing else is read. -/
structure Traversed (data : Bytes) (bounds : Bounds) (root : Block) (vs : List Visit) : Prop where
  visits : Inside data bounds root vs
  pairs : (read data bounds).1 = sortPairs (vs.foldl (meet data bounds) {}).found.toList
  parent : ∀ q v, .block q v ∈ vs → q = [⟨0, root⟩] ∨ ∃ a p, q = a :: p ∧ .block p a ∈ vs
  /-- A block lies inside all blocks around it. -/
  nested : ∀ q v, .block q v ∈ vs → Around q v.off v.block.stop
  apart : vs.Pairwise Apart
  /-- Blocks side by side are disjoint. -/
  siblings : ∀ q v w, [.block q v, .block q w].Sublist vs → v.block.stop ≤ w.off
  /-- Every pair comes from one of the blocks. -/
  stored : ∀ key value, (key, value) ∈ (read data bounds).1 →
    ∃ q v, .block q v ∈ vs ∧ DecodedFrom data v key value

/-- Reading stays inside the root. -/
structure Confined (data : Bytes) (bounds : Bounds) (root : Block) : Prop where
  declared : data.u16? 0 = some root.stop
  /-- What stands behind the root does not matter. -/
  alone : ∀ rest, Guarded.versionPairs (data.extract 0 root.stop ++ rest) bounds =
    Guarded.versionPairs data bounds
  traversed : ∃ vs, Traversed data bounds root vs

section Root

variable {root : Block} (accepted : block? data 0 data.size bounds.maxKeyChars = some root)

theorem exists_inside (data : Bytes) (bounds : Bounds) (root : Block) :
    ∃ vs, Inside data bounds root vs := by
  by_cases children : root.key = "VS_VERSION_INFO" ∧ root.childrenOffset < root.stop
  · obtain ⟨vs, visits⟩ := exists_visits data bounds.maxKeyChars (maxNesting + 1) [⟨0, root⟩]
      (align4 root.childrenOffset) root.stop
    exact ⟨vs, .inl ⟨children, visits⟩⟩
  · exact ⟨[], .inr ⟨children, rfl⟩⟩

include accepted

/-- Reading version information is a fold over what it comes to below the root. -/
theorem read_eq_foldl {vs : List Visit} (inside : Inside data bounds root vs) :
    read data bounds =
      (sortPairs (vs.foldl (meet data bounds) {}).found.toList,
        if root.key ≠ "VS_VERSION_INFO" then [.versionRootKey root.key]
        else (vs.foldl (meet data bounds) {}).problems.toList) := by
  rw [read, accepted]
  dsimp only
  split
  next other =>
    rcases inside with ⟨⟨key, -⟩, -⟩ | ⟨-, rfl⟩
    · exact absurd key other
    · simp [sortPairs]
  next key =>
    rcases inside with ⟨⟨-, children⟩, visits⟩ | ⟨childless, rfl⟩
    · rw [if_pos children, visits.blocks_eq]
    · rw [if_neg fun children => childless ⟨not_not.1 key, children⟩]
      simp [sortPairs]

theorem placed_of_inside {vs : List Visit} (inside : Inside data bounds root vs) {q : List Placed}
    {v : Placed} (met : .block q v ∈ vs) :
    v.block.stop ≤ root.stop ∧ Around q v.off v.block.stop ∧
      (q = [⟨0, root⟩] ∨ ∃ a p, q = a :: p ∧ .block p a ∈ vs) ∧
      ∃ limit, block? data v.off limit bounds.maxKeyChars = some v.block := by
  rcases inside with ⟨-, visits⟩ | ⟨-, rfl⟩
  · obtain ⟨-, before, around, there⟩ := visits.around (Around.cons (fun _ => nofun) accepted) met
    exact ⟨before, around, visits.parent met, there⟩
  · cases met

theorem traversed_of_inside {vs : List Visit} (inside : Inside data bounds root vs) :
    Traversed data bounds root vs := by
  have pairs : (read data bounds).1 = sortPairs (vs.foldl (meet data bounds) {}).found.toList :=
    congrArg Prod.fst (read_eq_foldl accepted inside)
  have placed {q : List Placed} {v : Placed} (met : .block q v ∈ vs) :=
    placed_of_inside accepted inside met
  have apart : vs.Pairwise Apart := by
    rcases inside with ⟨-, visits⟩ | ⟨-, rfl⟩
    · exact visits.pairwise_apart (Around.cons (fun _ => nofun) accepted)
    · exact .nil
  exact {
    visits := inside
    pairs := pairs
    parent := fun q v met => (placed met).2.2.1
    nested := fun q v met => (placed met).2.1
    apart := apart
    siblings := by
      intro q v w both
      have met : .block q v ∈ vs := both.subset (List.mem_cons_self ..)
      rcases List.pairwise_iff_forall_sublist.1 apart both with disjoint | inside_itself
      · exact disjoint
      · exact absurd ((placed met).2.1 v inside_itself).1 (Nat.lt_irrefl _)
    stored := by
      intro key value mem
      rw [pairs, sortPairs, List.mem_mergeSort, Array.mem_toList_iff] at mem
      rcases mem_foldl_meet mem with none_yet | ⟨q, v, met, same⟩
      · exact absurd none_yet (Array.not_mem_empty _)
      · cases same
        obtain ⟨-, -, -, limit, there⟩ := placed met
        exact ⟨q, v, met, decodedFrom_of_block? there _⟩ }

/-- What stands behind the root changes nothing. -/
theorem read_of_alike (alike : data.Alike data' 0 0 root.stop) :
    read data' bounds = read data bounds := by
  have accepted' : block? data' 0 data'.size bounds.maxKeyChars = some root := by
    have alone := block?_of_stop_le accepted (Nat.le_refl root.stop)
    have there := (block?_of_alike alike (Nat.le_refl _)).trans alone
    exact block?_of_stop_le there (by simpa using alike.inside')
  obtain ⟨vs, inside⟩ := exists_inside data bounds root
  have inside' : Inside data' bounds root vs :=
    inside.imp_left fun ⟨children, visits⟩ => ⟨children, visits.of_alike alike (Nat.le_refl _)⟩
  have same : vs.foldl (meet data' bounds) {} = vs.foldl (meet data bounds) {} :=
    foldl_meet_of_alike alike (fun q v met => (placed_of_inside accepted inside met).1) _
  rw [read_eq_foldl accepted inside, read_eq_foldl accepted' inside', same]

end Root

/-- Version information is read to an end on every buffer, and reading stays inside the root: it comes
from blocks inside it, and what stands behind it changes neither the pairs nor the problems. -/
theorem version_info_is_confined (data : Bytes) (bounds : Bounds) :
    Guarded.versionPairs data bounds = pure (read data bounds) ∧
      ∀ root, block? data 0 data.size bounds.maxKeyChars = some root → Confined data bounds root := by
  refine ⟨Guarded.versionPairs_eq data bounds, fun root accepted => ?_⟩
  have room := (Guarded.block?_bounds accepted).2
  obtain ⟨vs, inside⟩ := exists_inside data bounds root
  refine ⟨?_, fun rest => ?_, vs, traversed_of_inside accepted inside⟩
  · obtain ⟨length, type, taken, length_eq, -, -, -, -, -, root_eq⟩ := block?_eq_some accepted
    have stop : root.stop = 0 + length := congrArg Block.stop root_eq
    rw [stop, Nat.zero_add, length_eq]
  · rw [Guarded.versionPairs_eq, Guarded.versionPairs_eq,
      read_of_alike accepted (Bytes.alike_extract_append room rest)]

/-- A root with one string, whose value has fewer units than it announces, and a block behind the
root. -/
def overlongBytes : Bytes :=
  #[58, 0, 0, 0, 0, 0] ++ utf16Bytes "VS_VERSION_INFO" ++ #[0, 0, 0, 0] ++
  #[18, 0, 0xFF, 0xFF, 1, 0] ++ utf16Bytes "b" ++ #[0, 0, 0, 0] ++ utf16Bytes "xyz" ++ #[0, 0] ++
  #[12, 0, 1, 0, 1, 0] ++ utf16Bytes "a" ++ #[0, 0, 0, 0]

theorem overlong_value_is_confined :
    ∃ root, block? overlongBytes 0 overlongBytes.size 200 = some root ∧
      root.stop < overlongBytes.size ∧ Confined overlongBytes {} root ∧
      (blocks overlongBytes {} 9 root.childrenOffset root.stop {}).found = #[("b", "xyz")] := by
  have accepted : block? overlongBytes 0 overlongBytes.size 200 =
      some ⟨0, false, "VS_VERSION_INFO", 38, 58⟩ := by decide +kernel
  refine ⟨_, accepted, by decide +kernel, ?_, by decide +kernel⟩
  exact (version_info_is_confined overlongBytes {}).2 _ accepted

end VersionInfo

end PeFacts
