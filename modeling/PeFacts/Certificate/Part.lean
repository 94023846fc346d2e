import PeFacts.Asn1.Reader
import PeFacts.Calendar
import PeFacts.Certificate.Algorithm
import PeFacts.Certificate.Name

/-!
# Parts of a certificate

Readers for the parts of a certificate under the distinguished rules: each part has one form, and
every other form is refused.
-/

namespace PeFacts.Certificate.Part

open Asn1

/-- An object identifier of at most 63 octets, each number in at most nineteen of them and below
`2 ^ 128`. -/
def objectId : Reader ObjectId :=
  Rules.distinguished.primitive .objectId fun content =>
    if content.length ≤ 63 then
      (numbers128 19 0 0 content).bind fun numbers =>
        if numbers.all (· < 1 <<< 128) then ObjectId.read? content else none
    else none

/-- All that is left. -/
def remaining : Reader Octets := do octets (← get).length

/-- A null. -/
def null : Reader Unit :=
  Rules.distinguished.primitive .null fun content => if content.isEmpty then some () else none

/-- An integer in its shortest form. -/
def integer : Reader Int := Rules.distinguished.primitive .integer shortestInteger?

/-- An integer from zero to `limit`. -/
def natural (limit : Nat) : Reader Nat := do
  let n ← integer
  if 0 ≤ n && n ≤ limit then return n.toNat else malformed

/-- A bit string with the given tag, its unused bits zero. -/
def bitString (tag : Tag := .bitString) : Reader Unit :=
  Rules.distinguished.primitive tag fun content => if hasZeroPadding content then some () else none

/-- What may be left out when it has its default value must then be left out. -/
def unlessDefault {α : Type} [DecidableEq α] (default : α) (r : Reader α) : Reader α := do
  let a ← r
  if a = default then malformed else return a

/-- What may follow the object identifier of an algorithm whose parameters are at most a null: whether
a null does. -/
def nullIfAny : Reader Bool := do return (← Rules.distinguished.optional .null null).isSome

/-- One choice of a probabilistic signature, under a tag of its own. -/
def choice {α : Type} (n : Nat) (r : Reader α) : Reader Unit := do
  let _ ← Rules.distinguished.optional (.context n) (Rules.distinguished.constructed (.context n) r)

/-- An algorithm inside the parameters of another one, and whether a null follows it. Parameters do not
hold algorithms more than `depth` deep. -/
def innerAlgorithm : (depth : Nat) → Reader (ObjectId × Bool)
  | 0 => malformed
  | depth + 1 =>
    Rules.distinguished.sequence do
      let id ← objectId
      match Algorithm.parametersOf id with
      | .absent => return (id, false)
      | .nullOrAbsent => return (id, ← nullIfAny)
      | .probabilistic =>
        if !(← get).isEmpty then
          Rules.distinguished.sequence do
            choice 0 (unlessDefault Algorithm.usualHash (innerAlgorithm depth))
            choice 1 <| unlessDefault (Algorithm.usualMask, Algorithm.usualHash) <|
              Rules.distinguished.sequence do
                let mask ← objectId
                return (mask, ← innerAlgorithm depth)
            choice 2 (unlessDefault 20 (natural 0xFFFF))
            choice 3 (natural 0xFF)
        return (id, false)
      | .curve =>
        if (← Rules.distinguished.optional .objectId objectId).isNone then
          if !(← nullIfAny) then
            let _ ← Rules.distinguished.sequence remaining
        return (id, false)
      | .free =>
        if !(← get).isEmpty then
          let _ ← element .distinguished
        return (id, false)

/-- An algorithm with the parameters it may have. -/
def algorithmId : Reader ObjectId := do return (← innerAlgorithm (← get).length).1

/-- The alphabet of printable strings. -/
def isPrintable (b : UInt8) : Bool :=
  let c := Char.ofNat b.toNat
  (b < 0x80 && c.isAlphanum) || " '()+,-./:=?".toList.contains c

/-- The value of an attribute is well formed for its type. -/
def isValue (e : Element) : Bool :=
  if e.constructed then true
  else if e.tag = .printableString then e.content.all isPrintable
  else if e.tag = .universalString then (utf32Text? e.content).isSome
  else if e.tag = .bmpString then (utf16Text? e.content).isSome
  else true

/-- One attribute of a name. -/
def nameAttribute : Reader NameAttribute :=
  Rules.distinguished.sequence do
    let type ← objectId
    let e ← element .distinguished
    if isValue e then return ⟨type, e.whole.headD 0, e.content⟩ else malformed

/-- The octets are in ascending order. -/
def inOrder : List Octets → Bool
  | a :: b :: rest => !decide (b < a) && inOrder (b :: rest)
  | _ => true

/-- A relative name, whose members stand in ascending order. -/
def relativeName : Reader (List NameAttribute) := do
  let members ← Rules.distinguished.setOf (recorded nameAttribute)
  if inOrder (members.map (·.2)) then return members.map (·.1) else malformed

/-- A name, kept as it stands. -/
def name : Reader DistinguishedName := do
  let (parts, der) ← recorded (Rules.distinguished.sequenceOf relativeName)
  return ⟨der, parts⟩

/-- The number that two decimal digits write. -/
def twoDigits? : Octets → Option Nat
  | [a, b] =>
    if 0x30 ≤ a && a ≤ 0x39 && 0x30 ≤ b && b ≤ 0x39 then
      some ((a.toNat - 0x30) * 10 + (b.toNat - 0x30))
    else none
  | _ => none

/-- Octets in pairs; an odd last one makes a pair of its own. -/
def pairs : Octets → List Octets
  | a :: b :: rest => [a, b] :: pairs rest
  | [a] => [[a]]
  | [] => []

/-- The moment in the digits before a final `Z`, its year in two digits or in four. -/
def moment? (longYear : Bool) (content : Octets) : Option Moment := do
  if content.getLast? != some 0x5a then none
  match ← (pairs content.dropLast).mapM twoDigits?, longYear with
  | [year, month, day, hour, minute, second], false =>
    -- Two digits name a year from 1950 to 2049.
    let t : Moment := ⟨if year ≥ 50 then 1900 + year else 2000 + year, month, day, hour, minute, second⟩
    if t.isValid then some t else none
  | [century, year, month, day, hour, minute, second], true =>
    let t : Moment := ⟨100 * century + year, month, day, hour, minute, second⟩
    if t.isValid then some t else none
  | _, _ => none

/-- A point in time. -/
def time : Reader Moment := do
  let e ← element .distinguished
  if e.constructed then malformed
  else if e.tag = .utcTime then present (moment? false e.content)
  else if e.tag = .generalizedTime then present (moment? true e.content)
  else malformed

/-- An extension: what kind, whether it is critical, and a value. Only a true flag is written. -/
def extension : Reader Unit :=
  Rules.distinguished.sequence do
    let _ ← objectId
    let _ ← Rules.distinguished.optional .boolean <|
      Rules.distinguished.primitive .boolean fun content =>
        if content = [0xff] then some () else none
    Rules.distinguished.primitive .octetString fun _ => some ()

end PeFacts.Certificate.Part
