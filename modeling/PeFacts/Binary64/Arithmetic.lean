import PeFacts.Binary64

/-!
# Sums and products of binary floating-point numbers

A sum or a product of two finite numbers is the number nearest to the exact one. A zero that comes
out is positive.
-/

namespace PeFacts.Binary64

/-- The number nearest to `n * 2 ^ exponent`. -/
def ofScaled (n : Int) (exponent : Int) : Binary64 :=
  if n = 0 then .finite false 0 minExponent
  else if exponent < 0 then ofFraction (n < 0) n.natAbs (1 <<< (-exponent).toNat)
  else ofFraction (n < 0) (n.natAbs <<< exponent.toNat) 1

/-- The number nearest to an integer. -/
def ofInt (n : Int) : Binary64 := ofScaled n 0

/-- A magnitude with its sign. -/
def signed (negative : Bool) (n : Nat) : Int := if negative then -(n : Int) else n

/-- The sum of two numbers. -/
protected def add : Binary64 → Binary64 → Binary64
  | .finite s m e, .finite t n f =>
    let low := min e f
    ofScaled (signed s (m <<< (e - low).toNat) + signed t (n <<< (f - low).toNat)) low
  | .infinite s, .infinite t => if s = t then .infinite s else .nan
  | .infinite s, .finite .. => .infinite s
  | .finite .., .infinite t => .infinite t
  | .nan, _ => .nan
  | _, .nan => .nan

/-- The product of two numbers. -/
protected def mul : Binary64 → Binary64 → Binary64
  | .finite s m e, .finite t n f => ofScaled (signed (s != t) (m * n)) (e + f)
  | .infinite s, .infinite t => .infinite (s != t)
  | .infinite s, .finite t n _ => if n = 0 then .nan else .infinite (s != t)
  | .finite s m _, .infinite t => if m = 0 then .nan else .infinite (s != t)
  | .nan, _ => .nan
  | _, .nan => .nan

/-- The number with the other sign. -/
protected def neg : Binary64 → Binary64
  | .finite s m e => .finite (!s) m e
  | .infinite s => .infinite (!s)
  | .nan => .nan

instance : Add Binary64 := ⟨Binary64.add⟩

instance : Mul Binary64 := ⟨Binary64.mul⟩

instance : Neg Binary64 := ⟨Binary64.neg⟩

end PeFacts.Binary64
