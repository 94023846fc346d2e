/-!
# ASN.1 elements

An element is an identifier, a length and that many octets of content. `Rules` says how freely
identifiers and lengths may be written: the basic rules allow an open length, which an
end-of-contents mark closes, and the distinguished rules allow each header in one form only.
`header` reads what stands before a content and `element` a whole element under given rules; a
`Flaw` says why there is none.
-/

namespace PeFacts.Asn1

/-- A run of octets. -/
abbrev Octets := List UInt8

/-- Why something cannot be read. -/
inductive Flaw
  /-- It is not there, or not in a form that the rules allow. -/
  | malformed
  /-- More octets are asked for than any memory holds. -/
  | oversized
  /-- A piece of a bit string does not even count its unused bits. -/
  | emptyPiece
  /-- A piece of a bit string leaves more bits unused than it has. -/
  | overusedPiece
  deriving Repr, DecidableEq

/-- Reads something from the front of the octets and leaves the rest. -/
abbrev Reader (α : Type) := StateT Octets (Except Flaw) α

/-- Nothing of the kind is there. -/
def malformed {α : Type} : Reader α := throw .malformed

/-- What there is, or else nothing of the kind. -/
def present {α : Type} : Option α → Reader α
  | some a => return a
  | none => malformed

/-- How freely lengths are written. -/
inductive Rules
  /-- Any form, also the open one. -/
  | basic
  /-- Any form that says how long the content is. -/
  | definite
  /-- The shortest form only. -/
  | distinguished
  deriving Repr, DecidableEq

/-- What an element is called: the two high bits of its identifier and a number. -/
structure Tag where
  space : Nat
  number : Nat
  deriving Repr, DecidableEq

namespace Tag

/-- A tag of the types that every notation shares. -/
def universal (number : Nat) : Tag := ⟨0, number⟩

/-- A tag whose meaning depends on where it stands. -/
def context (number : Nat) : Tag := ⟨2, number⟩

def boolean : Tag := universal 1
def integer : Tag := universal 2
def bitString : Tag := universal 3
def octetString : Tag := universal 4
def null : Tag := universal 5
def objectId : Tag := universal 6
def enumerated : Tag := universal 10
def utf8String : Tag := universal 12
def sequence : Tag := universal 16
def set : Tag := universal 17
def printableString : Tag := universal 19
def utcTime : Tag := universal 23
def generalizedTime : Tag := universal 24
def universalString : Tag := universal 28
def bmpString : Tag := universal 30

end Tag

/-- An element; `whole` is all of it as it was written. -/
structure Element where
  tag : Tag
  /-- The content is made of elements. -/
  constructed : Bool
  content : Octets
  whole : Octets
  deriving Repr, DecidableEq

/-- The big-endian number in some octets. -/
def bigEndian (octets : Octets) : Nat := octets.foldl (fun n b => n * 256 + b.toNat) 0

/-- The next octet. -/
def octet : Reader UInt8 := do
  match ← get with
  | [] => malformed
  | b :: rest =>
    set rest
    return b

/-- No run of octets is this long. -/
def memoryBound : Nat := 0x8000000000000000

/-- The next `n` octets. -/
def octets (n : Nat) : Reader Octets := do
  if memoryBound ≤ n then throw .oversized
  let input ← get
  let taken := input.take n
  if taken.length < n then malformed
  set (input.drop n)
  return taken

/-- A number that goes on after these digits may still be the number of a tag. -/
def Rules.admitsTagPrefix (rules : Rules) (n : Nat) : Bool :=
  match rules with
  | .basic => n < 0x1000000
  | .definite => true
  | .distinguished => 0 < n && n < 0x2000000

/-- The number of a tag in base 128, most significant digit first, after digits that make `n`; the high
bit marks all digits but the last. -/
def tagNumber (rules : Rules) (n : Nat) : Octets → Option (Nat × Octets)
  | [] => none
  | b :: rest =>
    let n := n * 128 + b.toNat % 128
    if b < 0x80 then some (n, rest)
    else if rules.admitsTagPrefix n then tagNumber rules n rest
    else none

/-- The next identifier, and whether it announces a constructed element. A number below 31 stands in
the first octet; the distinguished rules do not allow it after that. -/
def identifier (rules : Rules) : Reader (Tag × Bool) := do
  let b ← octet
  let constructed := b.toNat / 32 % 2 == 1
  let low := b.toNat % 32
  if low < 31 then return (⟨b.toNat / 64, low⟩, constructed)
  let (number, rest) ← present (tagNumber rules 0 (← get))
  if rules = .distinguished ∧ number < 31 then malformed
  set rest
  return (⟨b.toNat / 64, number⟩, constructed)

/-- The length that `digits` write is in the form that the rules ask for. -/
def Rules.admitsLength (rules : Rules) (digits : Octets) : Bool :=
  match rules with
  | .basic => (digits.dropWhile (· == 0)).length ≤ 8 && bigEndian digits < memoryBound
  | .definite => digits.length ≤ 8
  | .distinguished => digits.length ≤ 4 && digits.head? != some 0 && 128 ≤ bigEndian digits

/-- The next length; `none` stands for an open one. -/
def length (rules : Rules) : Reader (Option Nat) := do
  let b ← octet
  if b < 0x80 then return some b.toNat
  else if b = 0x80 then
    if rules = .basic then return none else malformed
  else
    let digits ← octets (b.toNat - 0x80)
    if rules.admitsLength digits then return some (bigEndian digits) else malformed

/-- What stands before the content of an element. -/
structure Header where
  tag : Tag
  /-- The content is made of elements. -/
  constructed : Bool
  /-- How many octets the content has, unless its length is open. -/
  size? : Option Nat
  deriving Repr, DecidableEq

/-- The next header. Only a constructed element may be open. -/
def header (rules : Rules) : Reader Header := do
  let (tag, constructed) ← identifier rules
  let size? ← length rules
  if size?.isNone && !constructed then malformed
  return ⟨tag, constructed, size?⟩

/-- What `r` reads, and the octets that it reads it from. -/
def recorded {α : Type} (r : Reader α) : Reader (α × Octets) := do
  let before ← get
  let a ← r
  return (a, before.take (before.length - (← get).length))

/-- All of `content`, read by `r` without a rest. -/
def within {α : Type} (r : Reader α) (content : Octets) : Except Flaw α := do
  let (a, rest) ← r.run content
  if rest.isEmpty then return a else throw .malformed

/-- An end-of-contents mark stands at the front. -/
def startsWithMark : Octets → Bool
  | 0 :: 0 :: _ => true
  | _ => false

/-- Goes past an end-of-contents mark, which must be next. -/
def endMark : Reader Unit := do
  let input ← get
  if startsWithMark input then set (input.drop 2) else malformed

/-- The content after a header, all of it read by `r`. -/
def contents {α : Type} (h : Header) (r : Reader α) : Reader α := do
  match h.size? with
  | some size => liftM (within r (← octets size))
  | none =>
    let a ← r
    endMark
    return a

/-- Passes over elements up to the mark that closes the outermost of `depth + 1` open ones; `fuel` bounds
the elements passed. -/
def skipOpen : (fuel : Nat) → (depth : Nat) → Reader Unit
  | 0, _ => malformed
  | fuel + 1, depth => do
    if startsWithMark (← get) then
      if depth = 0 then return ()
      endMark
      skipOpen fuel (depth - 1)
    else
      let h ← header .basic
      match h.size? with
      | none => skipOpen fuel (depth + 1)
      | some size =>
        let _ ← octets size
        skipOpen fuel depth

/-- The content after a header, as it stands. -/
def rawContents (h : Header) : Reader Octets := do
  match h.size? with
  | some size => octets size
  | none =>
    let ((), content) ← recorded (do skipOpen ((← get).length + 1) 0)
    endMark
    return content

/-- The next element. -/
def element (rules : Rules) : Reader Element := do
  let ((h, content), whole) ← recorded do
    let h ← header rules
    return (h, ← rawContents h)
  return ⟨h.tag, h.constructed, content, whole⟩

/-- A number as big-endian octets, without leading zeros; zero takes one octet. -/
def octetsOf (n : Nat) : Octets :=
  (List.range (n.log2 / 8 + 1)).reverse.map fun i => (n >>> (8 * i)).toUInt8

/-- The octets of a length in its shortest form. -/
def encodeLength (n : Nat) : Octets :=
  if n < 0x80 then [n.toUInt8] else (0x80 + (octetsOf n).length).toUInt8 :: octetsOf n

/-- A number in base 128, all digits but the last marked. -/
def octetsOf128 (n : Nat) : Octets :=
  (List.range (n.log2 / 7 + 1)).reverse.map fun i =>
    let digit := (n >>> (7 * i)) % 128
    (if i = 0 then digit else 128 + digit).toUInt8

/-- The identifier of a primitive element, or of a constructed one, in its shortest form. -/
def encodeIdentifier (tag : Tag) (constructed : Bool) : Octets :=
  let lead := tag.space * 64 + if constructed then 32 else 0
  if tag.number < 31 then [(lead + tag.number).toUInt8] else (lead + 31).toUInt8 :: octetsOf128 tag.number

/-- An element in its shortest form. -/
def encode (tag : Tag) (constructed : Bool) (content : Octets) : Octets :=
  encodeIdentifier tag constructed ++ encodeLength content.length ++ content

end PeFacts.Asn1
