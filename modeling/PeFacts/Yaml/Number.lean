import PeFacts.Binary64.Arithmetic
import PeFacts.Calendar
import PeFacts.Text.Digit
import PeFacts.Text.Lower
import PeFacts.Yaml.Kind
import PeFacts.Yaml.Scalar

/-!
# Numbers, dates and octets in YAML

The values of scalars that are not text. A tag may ask for a value that the text does not give, so
every reader may fail. Underscores in numbers do not count, numbers between colons are digits to the
base sixty, and the digits of any script are read.
-/

namespace PeFacts.Yaml

/-- The character may stand before and after a number. -/
def isPadding (c : Char) : Bool := c == ' ' || ('\t' ≤ c && c ≤ '\r')

/-- A minus sign stands at the front, and what follows the sign. -/
def splitSign : List Char → Bool × List Char
  | '-' :: rest => (true, rest)
  | '+' :: rest => (false, rest)
  | cs => (false, cs)

/-- A number in ASCII characters without the padding around it: its sign and what follows that. -/
def signedText? (cs : List Char) : Option (Bool × List Char) :=
  (Text.plainDigits? cs).map fun cs => splitSign (Text.stripped isPadding cs)

/-- The value of a digit to a base. -/
def digitIn? (base : Nat) (c : Char) : Option Nat := (hexValue? c).filter (· < base)

/-- The letter that may stand before digits to a base, after a zero. -/
def baseLetter (base : Nat) : Option Char :=
  if base = 2 then some 'b' else if base = 8 then some 'o' else if base = 16 then some 'x' else none

/-- The natural number that digits to a base make up. -/
def naturalIn? (base : Nat) (cs : List Char) : Option Nat :=
  if cs.isEmpty then none else cs.foldlM (fun n c => (digitIn? base c).map (base * n + ·)) 0

/-- The integer that a text gives to a base. -/
def integerIn? (base : Nat) (cs : List Char) : Option Int := do
  let (negative, body) ← signedText? cs
  let digits := match body with
    | '0' :: c :: rest => if baseLetter base == some c.toLower then rest else body
    | _ => body
  if base = 10 && maxDecimalDigits < digits.length then none
  return Binary64.signed negative (← naturalIn? base digits)

/-- A number without underscores, and whether a minus sign stands before it; it must not be empty. -/
def signedBody (cs : List Char) : Except Fault (Bool × List Char) :=
  match cs.filter (· != '_') with
  | [] => .error .emptyNumber
  | body => .ok (splitSign body)

/-- The integer that digits to the base sixty give, each an integer of its own. -/
def sexagesimal (digits : List Int) : Int := digits.foldl (fun n d => 60 * n + d) 0

/-- The integer that the text of a scalar gives. -/
def integerOf (s : String) : Except Fault Int := do
  let (negative, body) ← signedBody s.toList
  let magnitude? : Option Int ← match body with
    | [] => throw .emptyNumber
    | ['0'] => pure (some 0)
    | '0' :: 'b' :: rest => pure (integerIn? 2 rest)
    | '0' :: 'x' :: rest => pure (integerIn? 16 rest)
    | '0' :: _ => pure (integerIn? 8 body)
    | _ =>
      if body.contains ':' then
        pure (((body.splitOn ':').mapM (integerIn? 10)).map sexagesimal)
      else pure (integerIn? 10 body)
  match magnitude? with
  | some n => return if negative then -n else n
  | none => throw .scalar

/-- A decimal number: its digits and how many of them stand after the point. -/
def decimalOf? (cs : List Char) : Option (Nat × Nat) :=
  let (whole, fraction) := (Kind.splitPoint? cs).getD (cs, [])
  (naturalIn? 10 (whole ++ fraction)).map (·, fraction.length)

/-- The power of ten that an exponent gives. -/
def exponentOf? : List Char → Option Int
  | [] => some 0
  | _ :: rest =>
    let (negative, digits) := splitSign rest
    (naturalIn? 10 digits).map (Binary64.signed negative)

/-- The number with a fraction that a text in lower case gives. -/
def realText? (cs : List Char) : Option Binary64 := do
  let (negative, body) ← signedText? cs
  let word := String.ofList body
  if word == "inf" || word == "infinity" then return .infinite negative
  if word == "nan" then return .nan
  let (digits, places) ← decimalOf? (body.takeWhile (· != 'e'))
  let power ← exponentOf? (body.dropWhile (· != 'e'))
  return .ofDecimal negative digits (power - places)

/-- The sum of sexagesimal places from the last one on, `unit` being the value of a one in the first of
`places`. Every product and every sum is rounded. -/
def sexagesimalSum : (places : List Binary64) → (unit : Int) → (done : Binary64) → Except Fault Binary64
  | [], _, done => .ok done
  | place :: places, unit, done =>
    match Binary64.ofInt unit with
    | .infinite _ => .error .range
    | factor => sexagesimalSum places (60 * unit) (done + place * factor)

/-- The number with a fraction that the text of a scalar gives. -/
def realOf (s : String) : Except Fault Binary64 := do
  let (negative, body) ← signedBody (lowerText s).toList
  let word := String.ofList body
  let magnitude ←
    if word == ".inf" then pure (.infinite false)
    else if word == ".nan" then pure .nan
    else if body.contains ':' then
      match (body.splitOn ':').mapM realText? with
      | some places => sexagesimalSum places.reverse 1 (.ofInt 0)
      | none => throw .scalar
    else
      match realText? body with
      | some x => pure x
      | none => throw .scalar
  return if negative then -magnitude else magnitude

/-- The truth value that the text of a scalar gives. -/
def truthOf (s : String) : Except Fault Bool :=
  let word := lowerText s
  if ["yes", "true", "on"].contains word then .ok true
  else if ["no", "false", "off"].contains word then .ok false
  else .error .word

/-- The number that digits make up. -/
def digitsNumber (cs : List Char) : Nat := cs.foldl (fun n c => 10 * n + (c.toNat - '0'.toNat)) 0

/-- The moment that the text of a scalar gives; a date is its first second. A zone is less than a day
away from universal time. -/
def momentOf (s : String) : Except Fault Moment :=
  match Kind.momentOf? (Kind.withoutBreak s.toList) with
  | none => .error .date
  | some m =>
    let t : Moment :=
      ⟨digitsNumber m.year, digitsNumber m.month, digitsNumber m.day, digitsNumber m.hour,
        digitsNumber m.minute, digitsNumber m.second⟩
    let zone := digitsNumber m.zone.1 * 60 + digitsNumber m.zone.2
    if t.isValid && 1 ≤ t.year && zone < 24 * 60 then .ok t else .error .scalar

/-- The value of a base-64 digit. -/
def sextet? (c : Char) : Option Nat :=
  if c.isUpper then some (c.toNat - 'A'.toNat)
  else if c.isLower then some (c.toNat - 'a'.toNat + 26)
  else if c.isDigit then some (c.toNat - '0'.toNat + 52)
  else if c == '+' then some 62
  else if c == '/' then some 63
  else none

/-- The octets of base-64 digits. Other characters do not count, and padding must complete the last
group; `group` holds its digits so far and `pads` counts the padding. -/
def octetsFrom (group : List Nat) (pads : Nat) : List Char → Option (List UInt8)
  | [] => if group.isEmpty then some [] else none
  | c :: rest =>
    if c == '=' then
      match group with
      | [a, b] =>
        if pads = 1 then some [(a * 4 + b / 16).toUInt8] else octetsFrom group (pads + 1) rest
      | [a, b, d] => some [(a * 4 + b / 16).toUInt8, (b % 16 * 16 + d / 4).toUInt8]
      | _ => octetsFrom group (pads + 1) rest
    else
      match sextet? c, group with
      | none, _ => octetsFrom group pads rest
      | some n, [a, b, d] =>
        (octetsFrom [] 0 rest).map fun octets =>
          (a * 4 + b / 16).toUInt8 :: (b % 16 * 16 + d / 4).toUInt8 :: (d % 4 * 64 + n).toUInt8 :: octets
      | some n, _ => octetsFrom (group ++ [n]) 0 rest

/-- The octets that the text of a scalar gives. -/
def octetsOf (s : String) : Except Fault (List UInt8) :=
  if s.toList.all (·.toNat < 128) then
    match octetsFrom [] 0 s.toList with
    | some octets => .ok octets
    | none => .error .malformed
  else .error .malformed

end PeFacts.Yaml
