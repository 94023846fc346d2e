import PeFacts.Bytes
import PeFacts.Memo

/-!
# Guarded computations

An operation that the readers are made of may have a domain: a number can be unpacked only where
the buffer has its bytes, and only a number that is there can be computed with. A `Guarded`
computation stops with a `Misuse` when it leaves such a domain, so a reader that never does is one
whose checks come before every use. On its way it remembers the positions of addresses.
-/

namespace PeFacts

/-- How an operation is used outside its domain. -/
inductive Misuse
  /-- A number is unpacked from bytes that the buffer does not have. -/
  | unpack
  /-- A number is packed into fewer bytes than it needs. -/
  | pack
  /-- Bytes that are not cut into whole words are read as words. -/
  | words
  /-- A sequence is asked for an item that it does not have. -/
  | index
  /-- A number that is not there is computed with. -/
  | missing
  /-- A loop or a recursion goes on without an end. -/
  | endless
  deriving Repr, DecidableEq

/-- A computation that may leave the domain of an operation, and that remembers the positions of
addresses. -/
abbrev Guarded (α : Type) := ExceptT Misuse (StateM (Memo (Option Nat))) α

namespace Guarded

/-- A value that must be there. -/
def given {α : Type} : Option α → Guarded α
  | some a => return a
  | none => throw .missing

/-- An item that the list must have. -/
def item {α : Type} (items : List α) (i : Nat) : Guarded α :=
  match items[i]? with
  | some a => return a
  | none => throw .index

/-- The byte at `i`, which the buffer must have. -/
def byte (data : Bytes) (i : Nat) : Guarded Nat :=
  if i < data.size then return data.byte i else throw .index

/-- The number in the `width` bytes at `off`, which the buffer must have. -/
def unpack (data : Bytes) (off width : Nat) : Guarded Nat :=
  if data.holds off width then return data.number off width else throw .unpack

/-- The number in the `width` bytes at `off`, when they are all there. -/
def number? (data : Bytes) (off width : Nat) : Guarded (Option Nat) := do
  if data.holds off width then return some (← unpack data off width) else return none

/-- The number at a position that may be missing. -/
def numberAt? (data : Bytes) (off? : Option Nat) (width : Nat) : Guarded (Option Nat) :=
  match off? with
  | none => return none
  | some off => number? data off width

/-- The number in the `width` bytes at `off`, which is computed with. -/
def number (data : Bytes) (off width : Nat) : Guarded Nat := do given (← number? data off width)

theorem pure_inj {α : Type} {a b : α} : (pure a : Guarded α) = pure b ↔ a = b := by
  constructor
  · intro same
    have run := congrFun same Memo.empty
    cases run
    rfl
  · rintro rfl
    rfl

@[simp] theorem given_some {α : Type} (a : α) : given (some a) = pure a := rfl

theorem item_eq {α : Type} {items : List α} {i : Nat} (h : i < items.length) :
    item items i = pure items[i] := by
  simp [item, h]

theorem byte_eq {data : Bytes} {i : Nat} (h : i < data.size) :
    byte data i = pure (data.byte i) := by
  simp [byte, h]

theorem unpack_eq {data : Bytes} {off width : Nat} (h : off + width ≤ data.size) :
    unpack data off width = pure (data.number off width) := by
  simp [unpack, h]

/-- The bounds check keeps a reading inside the domain of unpacking. -/
theorem number?_eq (data : Bytes) (off width : Nat) :
    number? data off width = pure (data.number? off width) := by
  by_cases h : off + width ≤ data.size
  · simp [number?, Bytes.number?, h, unpack_eq h]
  · simp [number?, Bytes.number?, h]

theorem numberAt?_eq (data : Bytes) (off? : Option Nat) (width : Nat) :
    numberAt? data off? width = pure (off?.bind fun off => data.number? off width) := by
  cases off? with
  | none => rfl
  | some off => exact number?_eq data off width

theorem number?_of_le {data : Bytes} {off width : Nat} (h : off + width ≤ data.size) :
    number? data off width = pure (some (data.number off width)) := by
  simp [number?_eq, Bytes.number?, h]

theorem number_eq {data : Bytes} {off width : Nat} (h : off + width ≤ data.size) :
    number data off width = pure (data.number off width) := by
  simp [number, number?_of_le h]

end Guarded

end PeFacts
