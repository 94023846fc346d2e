/-!
# Memos

A `Memo` remembers values under numbers. It is a binary tree: the value of zero stands at the root,
and the values of the odd and of the other even numbers stand, under half of what comes before
them, in the two trees below. `get?_insert` says all there is to know about it.
-/

namespace PeFacts

/-- Values remembered under numbers. -/
inductive Memo (α : Type)
  | empty
  | node (here : Option α) (odds evens : Memo α)
  deriving Inhabited

namespace Memo

variable {α : Type}

/-- The value of zero. -/
def here : Memo α → Option α
  | empty => none
  | node here _ _ => here

/-- The values of odd numbers: the value of `2 * n + 1` under `n`. -/
def odds : Memo α → Memo α
  | empty => empty
  | node _ odds _ => odds

/-- The values of even numbers above zero: the value of `2 * n + 2` under `n`. -/
def evens : Memo α → Memo α
  | empty => empty
  | node _ _ evens => evens

/-- The value that is remembered under `n`. -/
def get? : Memo α → Nat → Option α
  | empty, _ => none
  | node here odds evens, n =>
    if n = 0 then here else if n % 2 = 1 then odds.get? (n / 2) else evens.get? (n / 2 - 1)

/-- Remembers `a` under `n`. -/
def insert (m : Memo α) (n : Nat) (a : α) : Memo α :=
  if n = 0 then node (some a) m.odds m.evens
  else if n % 2 = 1 then node m.here (m.odds.insert (n / 2) a) m.evens
  else node m.here m.odds (m.evens.insert (n / 2 - 1) a)
termination_by n

@[simp] theorem get?_empty (n : Nat) : (empty : Memo α).get? n = none := by
  rw [get?]

theorem get?_eq (m : Memo α) (n : Nat) :
    m.get? n = if n = 0 then m.here
      else if n % 2 = 1 then m.odds.get? (n / 2) else m.evens.get? (n / 2 - 1) := by
  cases m with
  | empty => simp [here, odds, evens]
  | node => rw [get?]; rfl

/-- A memo gives back what was put in last, and forgets nothing else. -/
theorem get?_insert (m : Memo α) (n k : Nat) (a : α) :
    (m.insert n a).get? k = if k = n then some a else m.get? k := by
  fun_induction insert m n a generalizing k with
  | case1 m =>
    rw [get?, get?_eq m k]
    split <;> rfl
  | case2 m n hn odd ih =>
    rw [get?, get?_eq m k, ih]
    -- The halves of two odd numbers differ when the numbers do.
    grind
  | case3 m n hn even ih =>
    rw [get?, get?_eq m k, ih]
    grind

end Memo

end PeFacts
