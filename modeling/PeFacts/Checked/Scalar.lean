import PeFacts.Checked
import PeFacts.Text.Blank

/-!
# Integers, truth values and text

Settings are written by people, so an integer may also be given as a truth value, as a number
without fraction or as text, and a truth value as one of the usual words. Text is never read from
anything else but octets that are UTF-8.
-/

namespace PeFacts.Checked

/-- A digit other than zero. -/
def isLeadingDigit (c : Char) : Bool := '1' ≤ c && c ≤ '9'

/-- What follows zeros and underscores, of which `last` is the last one. A point keeps it. -/
def afterZeros? (last : Char) : List Char → Option (List Char)
  | [] => some [last]
  | c :: rest =>
    if c == '0' || c == '_' then afterZeros? c rest
    else if isLeadingDigit c || c == '-' then some (c :: rest)
    else if c == '.' then some (last :: c :: rest)
    else none

/-- A number without the zeros it begins with. -/
def dropLeadingZeros? : List Char → Option (List Char)
  | [] => none
  | c :: rest =>
    if c == '0' then afterZeros? c rest
    else if isLeadingDigit c || c == '-' then some (c :: rest)
    else none

/-- A number without its fraction, if that is all zeros. -/
def dropZeroFraction (cs : List Char) : List Char :=
  match cs.span (· != '.') with
  | (whole, _ :: fraction) => if fraction.all (· == '0') then whole else cs
  | _ => cs

/-- A number without its underscores, if each stands alone between other characters. -/
def dropGaps (cs : List Char) : List Char :=
  if (cs.splitOn '_').all fun group => !group.isEmpty then cs.filter (· != '_') else cs

/-- The number that the digits make up, the first one counting most. -/
def digitsValue (digits : List Char) : Nat :=
  digits.foldl (fun n c => 10 * n + (c.toNat - '0'.toNat)) 0

/-- The digits of a number are a zero alone, or do not begin with one. -/
def isWhole (digits : List Char) : Bool := digits == ['0'] || digits.head?.any isLeadingDigit

/-- Longer numbers, sign and all, are not read. -/
def maxIntegerText : Nat := 4300

/-- The integer that digits after a minus sign or none make up. A number that is too long counts as
such whatever follows it. -/
def wholeNumber (cs : List Char) : Checked Int :=
  let (negative, body) := match cs with
    | '-' :: rest => (true, rest)
    | _ => (false, cs)
  let digits := body.takeWhile Char.isDigit
  let size := cs.length - body.length + digits.length
  if isWhole digits && maxIntegerText < size then complain .oversizedInteger
  else if isWhole digits && digits.length = body.length then
    let n : Int := digitsValue digits
    ok (if negative then -n else n)
  else complain .unreadableInteger

/-- The integer that a text stands for. A plus sign may stand before it, and a minus sign before or
after its leading zeros. -/
def integerOfText (s : String) : Checked Int :=
  let unsigned := match Text.trim s.toList with
    | '+' :: rest => rest
    | cs => cs
  match dropLeadingZeros? unsigned with
  | some cs => wholeNumber (dropGaps (dropZeroFraction cs))
  | none => complain .unreadableInteger

/-- The magnitude at which integers leave a signed 64-bit word. -/
def wordBound : Nat := 0x8000000000000000

/-- The integer that a number stands for, if it has no fraction and fits in a signed 64-bit word. -/
def integerOfReal (x : Binary64) : Checked Int :=
  match x with
  | .finite .. =>
    match x.whole? with
    | some n => if n.natAbs < wordBound then ok n else complain .oversizedInteger
    | none => complain .fraction
  | _ => complain .notFinite

/-- The text that octets are in UTF-8. -/
def octetsText? (data : List UInt8) : Option String := String.fromUTF8? ⟨data.toArray⟩

/-- A reading of octets as text, or a complaint if they are none. -/
def ofOctets {α : Type} (data : List UInt8) (read : String → Checked α) (c : Complaint) : Checked α :=
  match octetsText? data with
  | some s => read s
  | none => complain c

/-- An integer. -/
def integer : Value → Checked Int
  | .int n => ok n
  | .bool b => ok (if b then 1 else 0)
  | .real x => integerOfReal x
  | .text s => integerOfText s
  | .garbled => complain .unreadableText
  | .octets data => ofOctets data integerOfText .unreadableInteger
  | _ => complain .notInteger

/-- Words for true. -/
def trueWords : List String := ["1", "on", "t", "true", "y", "yes"]

/-- Words for false. -/
def falseWords : List String := ["0", "off", "f", "false", "n", "no"]

/-- The truth value of an integer, which must fit in a signed 64-bit word. -/
def truthOfInteger (n : Int) : Checked Bool :=
  if n = 0 then ok false
  else if n = 1 then ok true
  else if -wordBound ≤ n && n < wordBound then complain .unreadableTruth
  else complain .notTruth

/-- The truth value that a text stands for. -/
def truthOfText (s : String) : Checked Bool :=
  let word := String.ofList (s.toList.map Char.toLower)
  if trueWords.contains word then ok true
  else if falseWords.contains word then ok false
  else complain .unreadableTruth

/-- A truth value. -/
def truth : Value → Checked Bool
  | .bool b => ok b
  | .int n => truthOfInteger n
  | .real x =>
    match integerOfReal x with
    | .ok n => truthOfInteger n
    | .failed _ => complain .notTruth
  | .text s => truthOfText s
  | .garbled => complain .unreadableText
  | .octets data => ofOctets data truthOfText .unreadableTruth
  | _ => complain .notTruth

/-- Text. -/
def text : Value → Checked String
  | .text s => ok s
  | .garbled => complain .unreadableText
  | .octets data => ofOctets data ok .unreadableText
  | _ => complain .notText

end PeFacts.Checked
