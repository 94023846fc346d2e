import PeFacts.Asn1.Scalar
import PeFacts.Bytes

/-!
# Distinguished names

A distinguished name is a list of relative names, each a set of attributes. `DistinguishedName.text`
writes it with the relative names in reverse order. A name may be well formed and still have no
text: `NameFault` says why.
-/

namespace PeFacts

open Asn1

/-- Why a name has no text. -/
inductive NameFault
  /-- A text is not in its encoding or of no type that texts have, an attribute is repeated in its
  relative name, or a relative name has no attribute. -/
  | unreadable
  /-- A bit string stands where only a unique identifier has one. -/
  | bitString
  deriving Repr, DecidableEq

/-- One attribute: its type, the identifier octet of its value and the value's content. -/
structure NameAttribute where
  type : ObjectId
  form : UInt8
  content : Octets
  deriving Repr, DecidableEq

/-- A name: as it was encoded, and its relative names in that order. -/
structure DistinguishedName where
  der : Octets
  parts : List (List NameAttribute)
  deriving Repr, DecidableEq

/-- What an attribute says: a text, or the octets of a bit string. -/
inductive NameValue
  | text (chars : List Char)
  | bits (octets : Octets)
  deriving Repr, DecidableEq

namespace NameAttribute

/-- The attribute whose value is a bit string. -/
def uniqueIdentifier : ObjectId := ⟨[2, 5, 4, 45]⟩

/-- The identifier octets of the texts that are read as UTF-8: octet string, UTF-8, numeric,
printable, teletex and IA5 string, the two times and visible string. -/
def utf8Forms : List UInt8 := [0x04, 0x0c, 0x12, 0x13, 0x14, 0x16, 0x17, 0x18, 0x1a]

/-- What the attribute says. -/
def value (a : NameAttribute) : Except NameFault NameValue :=
  if a.form = 0x03 then
    if a.type = uniqueIdentifier then .ok (.bits a.content) else .error .bitString
  else
    let chars? :=
      if a.form = 0x1c then utf32Text? a.content
      else if a.form = 0x1e then utf16Text? a.content
      else if utf8Forms.contains a.form then (utf8Text? a.content).map String.toList
      else none
    match chars? with
    | none => .error .unreadable
    | some chars => .ok (.text chars)

/-- The short names of attribute types. -/
def shortNames : List (ObjectId × String) := [
  (⟨[2, 5, 4, 3]⟩, "CN"),
  (⟨[2, 5, 4, 7]⟩, "L"),
  (⟨[2, 5, 4, 8]⟩, "ST"),
  (⟨[2, 5, 4, 10]⟩, "O"),
  (⟨[2, 5, 4, 11]⟩, "OU"),
  (⟨[2, 5, 4, 6]⟩, "C"),
  (⟨[2, 5, 4, 9]⟩, "STREET"),
  (⟨[0, 9, 2342, 19200300, 100, 1, 25]⟩, "DC"),
  (⟨[0, 9, 2342, 19200300, 100, 1, 1]⟩, "UID")]

/-- How a type is written: its short name, or else its path. -/
def typeText (type : ObjectId) : String :=
  ((shortNames.find? fun s => s.1 == type).map (·.2)).getD type.text

/-- How a character is written inside a value. -/
def escapedChar (c : Char) : List Char :=
  if c = '\x00' then ['\\', '0', '0']
  else if "\\\"+,;<>".toList.contains c then ['\\', c]
  else [c]

/-- The end of a value, in which a last space is escaped. -/
def escapedEnd : List Char → List Char
  | [] => []
  | [c] => if c = ' ' then ['\\', ' '] else escapedChar c
  | c :: rest => escapedChar c ++ escapedEnd rest

/-- How a text is written: special characters are escaped, and so are a number sign or a space at
the start and a space at the end. -/
def escapedText : List Char → List Char
  | [] => []
  | c :: rest =>
    let body := escapedEnd (c :: rest)
    if c = '#' || (c = ' ' && !rest.isEmpty) then '\\' :: body else body

/-- How a value is written. -/
def valueText : NameValue → String
  | .text chars => String.ofList (escapedText chars)
  | .bits [] => ""
  | .bits octets => "#" ++ Bytes.hex octets.toArray

end NameAttribute

/-- The values of a relative name, which has an attribute and none twice. -/
def relativeValues (part : List NameAttribute) : Except NameFault (List (ObjectId × NameValue)) := do
  let values ← part.mapM fun a => return (a.type, ← a.value)
  if values.isEmpty then throw .unreadable
  else if values.eraseDups.length < values.length then throw .unreadable
  else return values

/-- The text of a relative name. -/
def relativeText (values : List (ObjectId × NameValue)) : String :=
  "+".intercalate
    (values.map fun v => NameAttribute.typeText v.1 ++ "=" ++ NameAttribute.valueText v.2)

namespace DistinguishedName

/-- The text of a name, last relative name first. -/
def text (n : DistinguishedName) : Except NameFault String := do
  let parts ← n.parts.mapM relativeValues
  return ",".intercalate (parts.reverse.map relativeText)

end DistinguishedName

end PeFacts
