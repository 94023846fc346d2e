/-!
# Binary floating-point numbers

Numbers with a fraction occur in settings and in plain values. A finite one is kept exactly, as a
sign, an integral significand and a power of two. `ofDecimal` rounds a decimal to the nearest such
number, and `shortest?` finds the fewest decimal digits that round back to it.
-/

namespace PeFacts

/-- A number of the IEEE 754 double-precision format. -/
inductive Binary64
  /-- `significand * 2 ^ exponent`, negated when `negative`. -/
  | finite (negative : Bool) (significand : Nat) (exponent : Int)
  | infinite (negative : Bool)
  | nan
  deriving Repr, DecidableEq, Inhabited

namespace Binary64

/-- `num / den` rounded to the nearest whole number, a half to the even one. -/
def roundHalfEven (num den : Nat) : Nat :=
  let q := num / den
  let r := num % den
  if 2 * r < den then q
  else if den < 2 * r then q + 1
  else if q % 2 = 0 then q else q + 1

/-- The quotient of `num / den` by `2 ^ e` as a fraction of whole numbers. -/
def scaled (num den : Nat) (e : Int) : Nat × Nat :=
  if e < 0 then (num <<< (-e).toNat, den) else (num, den <<< e.toNat)

/-- The least significand of a number that is not among the smallest, `2 ^ 52`. -/
def leastSignificand : Nat := 0x10000000000000

/-- The least exponent of the format. -/
def minExponent : Int := -1074

/-- The greatest exponent of the format. -/
def maxExponent : Int := 971

/-- The exponent at which `num / den` has a 53-bit significand, or the least one. -/
def exponentFor (num den : Nat) : Int :=
  let guess : Int := (Nat.log2 num : Int) - Nat.log2 den - 52
  let (n, d) := scaled num den guess
  max minExponent (if n / d < leastSignificand then guess - 1 else guess)

/-- The number nearest to the positive fraction `num / den`. -/
def ofFraction (negative : Bool) (num den : Nat) : Binary64 :=
  let e := exponentFor num den
  let (n, d) := scaled num den e
  let m := roundHalfEven n d
  let (m, e) := if m = 2 * leastSignificand then (leastSignificand, e + 1) else (m, e)
  if e > maxExponent then .infinite negative else .finite negative m e

/-- The number nearest to `digits * 10 ^ power`. Powers far outside the format are settled by the
number of digits alone. -/
def ofDecimal (negative : Bool) (digits : Nat) (power : Int) : Binary64 :=
  let size : Int := power + (Nat.toDigits 10 digits).length
  if digits = 0 || size < -400 then .finite negative 0 minExponent
  else if size > 400 then .infinite negative
  else if power < 0 then ofFraction negative digits (Nat.pow 10 (-power).toNat)
  else ofFraction negative (digits * Nat.pow 10 power.toNat) 1

/-- The whole number that a finite number equals, if it has no fraction. -/
def whole? : Binary64 → Option Int
  | .finite negative m e =>
    let magnitude : Option Nat :=
      if e < 0 then
        let whole := m >>> (-e).toNat
        if whole <<< (-e).toNat = m then some whole else none
      else some (m <<< e.toNat)
    magnitude.map fun n => if negative then -(n : Int) else n
  | _ => none

/-- The decimals that round to `m * 2 ^ e`: all fractions over one denominator, from `low` to
`high`, with `value` between them; `closed` tells whether the ends belong. -/
structure Interval where
  value : Nat
  low : Nat
  high : Nat
  denominator : Nat
  closed : Bool

/-- The interval around a finite number. Below a power of two the lower gap is half as wide. -/
def interval (m : Nat) (e : Int) : Interval :=
  let lower := if m = leastSignificand && e > minExponent then 1 else 2
  let scale := if e < 0 then 1 else 1 <<< e.toNat
  let denominator := if e < 0 then 4 <<< (-e).toNat else 4
  { value := 4 * m * scale, low := (4 * m - lower) * scale, high := (4 * m + 2) * scale,
    denominator, closed := m % 2 = 0 }

/-- The fraction `n / d` belongs to the interval. -/
def Interval.holds (i : Interval) (n d : Nat) : Bool :=
  let x := n * i.denominator
  if i.closed then i.low * d ≤ x && x ≤ i.high * d else i.low * d < x && x < i.high * d

/-- The decimal with `count` digits nearest to the value among those of the interval, where the
value lies below `10 ^ point` and not below a tenth of it. -/
def candidate? (i : Interval) (point : Int) (count : Nat) : Option Nat :=
  let power : Int := point - count
  let up := if power < 0 then 1 else Nat.pow 10 power.toNat
  let down := if power < 0 then Nat.pow 10 (-power).toNat else 1
  let num := i.value * down
  let den := i.denominator * up
  let floor := num / den
  let below := i.holds (floor * up) down
  let above := i.holds ((floor + 1) * up) down
  let nearer := roundHalfEven num den
  if below && above then some nearer
  else if below then some floor
  else if above then some (floor + 1)
  else none

/-- The least `p` with value below `10 ^ p`, searched from `p` on. -/
def pointFrom (i : Interval) (p : Int) : Nat → Int
  | 0 => p
  | fuel + 1 =>
    let small := if p < 0 then i.value * Nat.pow 10 (-p).toNat < i.denominator
      else i.value < i.denominator * Nat.pow 10 p.toNat
    if small then p else pointFrom i (p + 1) fuel

/-- The fewest significant digits that round back to a positive finite number, and the power of
ten that bounds it: the number reads `0.digits * 10 ^ point`. -/
def shortest (m : Nat) (e : Int) : List Char × Int :=
  let i := interval m e
  let point := pointFrom i (-330) 700
  let found := (List.range 17).findSome? fun k => candidate? i point (k + 1)
  let digits := Nat.toDigits 10 (found.getD 0)
  -- A candidate may reach the next power of ten.
  let count := ((List.range 17).find? fun k => (candidate? i point (k + 1)).isSome).getD 16 + 1
  let point := if digits.length > count then point + 1 else point
  ((digits.reverse.dropWhile (· == '0')).reverse, point)

/-- Whole numbers of at least two digits, as exponents are written. -/
def exponentText (n : Nat) : String := if n < 10 then s!"0{n}" else toString n

/-- The digits placed around the point: positional from `0.0001` up to below `10 ^ 16`, with an
exponent outside; a whole number keeps `.0`. -/
def placed (digits : List Char) (point : Int) : String :=
  if point > 16 || point < -3 then
    let e := point - 1
    let head := digits.take 1
    let tail := digits.drop 1
    let mark := if e < 0 then "-" else "+"
    String.ofList head ++ (if tail.isEmpty then "" else "." ++ String.ofList tail) ++ "e" ++ mark ++
      exponentText e.natAbs
  else if point ≤ 0 then
    "0." ++ String.ofList (List.replicate (-point).toNat '0') ++ String.ofList digits
  else
    let n := point.toNat
    let whole := digits.take n ++ List.replicate (n - digits.length) '0'
    let rest := digits.drop n
    String.ofList whole ++ "." ++ (if rest.isEmpty then "0" else String.ofList rest)

/-- The text of a number, with the given names for what is not finite. -/
def text (infinity notANumber : String) : Binary64 → String
  | .finite negative m e =>
    let sign := if negative then "-" else ""
    if m = 0 then sign ++ "0.0"
    else
      let (digits, point) := shortest m e
      sign ++ placed digits point
  | .infinite negative => (if negative then "-" else "") ++ infinity
  | .nan => notANumber

end Binary64

end PeFacts
