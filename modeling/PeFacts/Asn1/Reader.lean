import PeFacts.Asn1.Element

/-!
# Reading typed elements

Readers for elements of a known tag, and the combinators that read the fields of a sequence one
after the other. A reader of a content reads it to its end: what is left over is an error.
-/

namespace PeFacts.Asn1

/-- The content ends here: nothing is left, or an end-of-contents mark stands here. -/
def atEnd : Reader Bool := do
  let input ← get
  return input.isEmpty || startsWithMark input

/-- Reads items until the content ends; `fuel` bounds their number. -/
def manyFrom {α : Type} (r : Reader α) : (fuel : Nat) → Reader (List α)
  | 0 => return []
  | fuel + 1 => do
    if ← atEnd then return []
    let a ← r
    return a :: (← manyFrom r fuel)

/-- Reads items until the content ends. Each item takes an octet at least. -/
def many {α : Type} (r : Reader α) : Reader (List α) := do manyFrom r (← get).length

/-- The tag at the front, if there is one. -/
def nextTag? (rules : Rules) (input : Octets) : Option Tag :=
  match (identifier rules).run input with
  | .ok ((tag, _), _) => some tag
  | .error _ => none

/-- The content after the header of a constructed element, all of it read by `r`. -/
def constructedContents {α : Type} (h : Header) (r : Reader α) : Reader α := do
  if !h.constructed || h.size?.any (memoryBound ≤ ·) then malformed
  contents h r

namespace Rules

/-- Reads what is there if the next element has this tag. -/
def optional {α : Type} (rules : Rules) (tag : Tag) (r : Reader α) : Reader (Option α) := do
  if nextTag? rules (← get) = some tag then return some (← r) else return none

/-- The header of the next element, which must have this tag. -/
def tagged (rules : Rules) (tag : Tag) : Reader Header := do
  let h ← header rules
  if h.tag = tag then return h else malformed

/-- What `r` reads from the content of the next element, which must be constructed and have this
tag. -/
def constructed {α : Type} (rules : Rules) (tag : Tag) (r : Reader α) : Reader α := do
  constructedContents (← rules.tagged tag) r

/-- What `p` makes of the content of the next element, which must be primitive and have this
tag. -/
def primitive {α : Type} (rules : Rules) (tag : Tag) (p : Octets → Option α) : Reader α := do
  let h ← rules.tagged tag
  if h.constructed then malformed
  present (p (← rawContents h))

/-- The fields of a sequence. -/
def sequence {α : Type} (rules : Rules) (r : Reader α) : Reader α :=
  rules.constructed .sequence r

/-- The members of a set. -/
def setOf {α : Type} (rules : Rules) (r : Reader α) : Reader (List α) :=
  rules.constructed .set (many r)

/-- The members of a sequence of one type. -/
def sequenceOf {α : Type} (rules : Rules) (r : Reader α) : Reader (List α) :=
  rules.constructed .sequence (many r)

end Rules

end PeFacts.Asn1
