import PeFacts.Yaml.Node

/-!
# Mappings that take in others

A mapping takes in the entries of the mappings that stand under its merge keys. `Merging.mapping`
does this for one mapping and for the mappings that it takes in, in place: its own entries come last
and so count most. A mapping may take in one that is around it, or itself, and then takes in what
that has at this time.
-/

namespace PeFacts.Yaml

namespace Nodes

/-- The kind of a node. -/
def kind? (nodes : Nodes) (id : Nat) : Option Kind := nodes[id]?.bind (·.kind?)

/-- What a node is written as; a node that is not there is an empty scalar. -/
def content (nodes : Nodes) (id : Nat) : Content := (nodes[id]?.map (·.content)).getD (.scalar none)

/-- The entries of a mapping. -/
def entries (nodes : Nodes) (id : Nat) : List (Nat × Nat) :=
  match nodes.content id with
  | .mapping entries => entries
  | _ => []

/-- The nodes with other entries for a mapping. -/
def setEntries (nodes : Nodes) (id : Nat) (entries : List (Nat × Nat)) : Nodes :=
  nodes.modify id fun n => { n with content := .mapping entries }

/-- As a key of a mapping, the sign for a default value is text. -/
def asKey (nodes : Nodes) (id : Nat) : Nodes :=
  nodes.modify id fun n => if n.kind? == some .default then { n with kind? := some .text } else n

/-- The value under the first merge key, and the other entries. -/
def splitMerge? (nodes : Nodes) : List (Nat × Nat) → Option (Nat × List (Nat × Nat))
  | [] => none
  | (key, value) :: rest =>
    if nodes.kind? key == some .merge then some (value, rest)
    else (nodes.splitMerge? rest).map fun (v, others) => (v, (key, value) :: others)

/-- How many entries all mappings have together. -/
def entryCount (nodes : Nodes) : Nat := nodes.foldl (fun n node =>
  match node.content with
  | .mapping entries => n + entries.length
  | _ => n) 0

end Nodes

/-- Changes the nodes of a document. -/
abbrev Merging (α : Type) := StateT Nodes (Except Fault) α

namespace Merging

mutual

/-- Makes a mapping hold what it takes in. -/
def mapping : (fuel : Nat) → Nat → Merging Unit
  | 0, _ => throw .nesting
  | fuel + 1, id => do
    let taken ← takenBy fuel id []
    let own := (← get).entries id
    modify fun nodes => (own.foldl (fun nodes e => nodes.asKey e.1) nodes).setEntries id (taken ++ own)

/-- Takes the merge keys off a mapping and gives the entries under them, after those in `done`. -/
def takenBy : (fuel : Nat) → Nat → (done : List (Nat × Nat)) → Merging (List (Nat × Nat))
  | 0, _, _ => throw .nesting
  | fuel + 1, id, done => do
    let nodes ← get
    match nodes.splitMerge? (nodes.entries id) with
    | none => return done
    | some (value, others) =>
      set (nodes.setEntries id others)
      let more ← taken fuel value
      takenBy fuel id (done ++ more)

/-- The entries to take in from a node: a mapping, or mappings of which the first ones count most. -/
def taken : (fuel : Nat) → Nat → Merging (List (Nat × Nat))
  | 0, _ => throw .nesting
  | fuel + 1, id => do
    match (← get).content id with
    | .mapping _ => takenMapping fuel id
    | .sequence items => return (← items.mapM (takenMapping fuel)).reverse.flatten
    | .scalar _ => throw .malformed

/-- The entries to take in from a node that must be a mapping. -/
def takenMapping : (fuel : Nat) → Nat → Merging (List (Nat × Nat))
  | 0, _ => throw .nesting
  | fuel + 1, id => do
    match (← get).content id with
    | .mapping _ =>
      mapping fuel id
      return (← get).entries id
    | _ => throw .malformed

end

/-- Bounds how often mappings with so many entries take in each other: every merge key is taken off
once, and between two of them there are four steps. -/
def bound (entryCount : Nat) : Nat := 8 * (entryCount + 1)

end Merging

end PeFacts.Yaml
