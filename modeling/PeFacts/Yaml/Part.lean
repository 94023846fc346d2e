import PeFacts.Value
import PeFacts.Yaml.Merge
import PeFacts.Yaml.Number

/-!
# What the nodes of a document give

Every node that the root refers to gives a `Part`: a scalar a value, and a collection the numbers of
its own parts. A collection is looked into only after all that were met before it, which decides
about the fault of a document that has several, and only once, so that it may refer to itself.
-/

namespace PeFacts.Yaml

/-- What a node gives. -/
inductive Part
  | leaf (v : Value)
  | list (items : List Nat)
  | record (entries : List (Nat × Nat))

/-- What the nodes of a document give, as far as they have been looked at. -/
abbrev Parts := Array (Option Part)

namespace Parts

/-- What a node gives. -/
def part? (parts : Parts) (id : Nat) : Option Part := parts[id]?.join

/-- The node gives a collection. -/
def isCollection (parts : Parts) (id : Nat) : Bool :=
  match parts.part? id with
  | some (.list _) | some (.record _) => true
  | _ => false

/-- The entries of a record with one more; it replaces one with the same name, and is left out if its
key is not text. -/
def addEntry (parts : Parts) (value : Nat → Value) (done : List (String × Value)) (e : Nat × Nat) :
    List (String × Value) :=
  match parts.part? e.1 with
  | some (.leaf (.text name)) => Value.assign name (value e.2) done
  | _ => done

/-- The value that a node gives. What lies deeper than `depth` is left out. -/
def value (parts : Parts) : (depth : Nat) → Nat → Value
  | 0, id =>
    match parts.part? id with
    | some (.leaf v) => v
    | some (.record _) => .record []
    | _ => .list []
  | depth + 1, id =>
    match parts.part? id with
    | some (.leaf v) => v
    | some (.record entries) => .record (entries.foldl (parts.addEntry (value parts depth)) [])
    | some (.list items) => .list (items.map (value parts depth))
    | none => .list []

end Parts

/-- The nodes of a document, what they give, and the collections in the order in which they were met. -/
structure Making where
  nodes : Nodes
  parts : Parts
  met : Array Nat := #[]
  /-- Bounds how often the mappings of the document take in each other. -/
  mergeBound : Nat

/-- Looks at a part of a document. -/
abbrev Make (α : Type) := StateT Making (Except Fault) α

/-- The text of a node that should be a scalar. A mapping stands for its default value. -/
def Nodes.scalarText (nodes : Nodes) : (fuel : Nat) → Nat → Except Fault (Option String)
  | 0, _ => .error .nesting
  | fuel + 1, id =>
    match nodes.content id with
    | .scalar text? => .ok text?
    | .sequence _ => .error .malformed
    | .mapping entries =>
      match entries.find? fun e => nodes.kind? e.1 == some .default with
      | some (_, value) => nodes.scalarText fuel value
      | none => .error .malformed

/-- A point in time as a plain value. -/
def momentValue (t : Moment) : Value :=
  .list (([t.year, t.month, t.day, t.hour, t.minute, t.second] : List Nat).map .nat)

/-- The value of a node that should be a scalar of this kind. -/
def Nodes.leaf (nodes : Nodes) (kind : Kind) (id : Nat) : Except Fault Value := do
  let text? ← nodes.scalarText (nodes.size + 1) id
  match kind, text? with
  | .null, _ => return .null
  | .truth, some s => return .bool (← truthOf s)
  | .truth, none => throw .word
  | .integer, some s => return .int (← integerOf s)
  | .integer, none => throw .scalar
  | .real, some s => return .real (← realOf s)
  | .real, none => throw .scalar
  | .binary, some s => return .octets (← octetsOf s)
  | .moment, text? =>
    match nodes.content id, text? with
    | .scalar _, some s => return momentValue (← momentOf s)
    | .scalar _, none => throw .date
    | _, _ => throw .dateMapping
  | .text, some s => return .text s
  | .text, none => return .garbled
  | _, _ => throw .malformed

namespace Make

/-- Notes what a node gives. -/
def give (id : Nat) (part : Part) : Make Unit :=
  modify fun s => { s with parts := s.parts.setIfInBounds id (some part) }

/-- Looks at a node, unless that has been done. A collection is only noted. -/
def visit (id : Nat) : Make Unit := do
  let s ← get
  if (s.parts.part? id).isNone then
    match s.nodes.kind? id with
    | some .sequence | some .mapping | some .set | some .pairs =>
      set { s with met := s.met.push id }
      give id (.list [])
    | some kind => give id (.leaf (← s.nodes.leaf kind id))
    | none => throw .malformed

/-- Looks at the entries of a mapping after it has taken in others. A collection cannot be a key. -/
def visitEntries (id : Nat) : Make (List (Nat × Nat)) := do
  let s ← get
  let ((), nodes) ← (Merging.mapping s.mergeBound id).run s.nodes
  set { s with nodes }
  let entries := nodes.entries id
  for (key, value) in entries do
    visit key
    if (← get).parts.isCollection key then throw .malformed
    visit value
  return entries

/-- Looks at a mapping that must have one entry, and gives the value of that. -/
def visitPair (id : Nat) : Make Nat := do
  match (← get).nodes.content id with
  | .mapping [(key, value)] =>
    visit key
    visit value
    return value
  | _ => throw .malformed

/-- Looks into a collection. -/
def collection (id : Nat) : Make Part := do
  let nodes := (← get).nodes
  match nodes.kind? id, nodes.content id with
  | some .sequence, .sequence items =>
    for item in items do visit item
    return .list items
  | some .mapping, .mapping _ => return .record (← visitEntries id)
  | some .set, .mapping _ => return .list ((← visitEntries id).map (·.1))
  | some .pairs, .sequence items => return .list (← items.mapM visitPair)
  | _, _ => throw .malformed

/-- Looks into the collections from number `next` on, in the order in which they are met. -/
def collectionsFrom : (fuel : Nat) → (next : Nat) → Make Unit
  | 0, _ => pure ()
  | fuel + 1, next => do
    match (← get).met[next]? with
    | none => pure ()
    | some id =>
      give id (← collection id)
      collectionsFrom fuel (next + 1)

end Make

/-- What the nodes give that the root of a document refers to. -/
def Nodes.parts (nodes : Nodes) (root : Nat) : Except Fault Parts := do
  let start : Making :=
    { nodes, parts := Array.replicate nodes.size none, mergeBound := Merging.bound nodes.entryCount }
  let look : Make Unit := do
    Make.visit root
    Make.collectionsFrom (nodes.size + 1) 0
  return (← look.run start).2.parts

end PeFacts.Yaml
