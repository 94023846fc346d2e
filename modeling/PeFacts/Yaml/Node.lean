import PeFacts.Yaml.Kind
import PeFacts.Yaml.Token

/-!
# YAML nodes

The nodes of a document are numbered, and a collection names its parts by their numbers: an alias
stands for the very node that has its anchor, which may be a collection around it.
`Document.ofText` reads the one document that a text may hold.
-/

namespace PeFacts.Yaml

/-- What a node is written as. -/
inductive Content
  /-- A scalar; without a text it holds what is no character. -/
  | scalar (text? : Option String)
  | sequence (items : List Nat)
  | mapping (entries : List (Nat × Nat))
  deriving Repr, DecidableEq

/-- A node. One whose tag is unknown has no kind. -/
structure Node where
  kind? : Option Kind
  content : Content
  deriving Repr, DecidableEq

/-- The nodes of a document by their numbers. -/
abbrev Nodes := Array Node

/-- A document. An empty one has no root. -/
structure Document where
  nodes : Nodes
  root? : Option Nat
  deriving Repr, DecidableEq

namespace Document

/-- How deep collections may stand in each other. -/
def maxDepth : Nat := 490

/-- The tokens, how many of them have been used, and what the document has so far. -/
structure Reading where
  lexing : Token.Lexing
  used : Nat := 0
  handles : List (String × String) := []
  anchors : List (String × Nat) := []
  nodes : Nodes := #[]
  /-- How many collections are open. -/
  depth : Nat := 0

/-- Reads a part of a document. -/
abbrev Read (α : Type) := StateT Reading (Except Fault) α

/-- Nothing in the language can stand here. -/
def malformed {α : Type} : Read α := throw .malformed

/-- The next token. -/
def peek : Read Token := do
  let s ← get
  let (t?, lexing) ← (Token.number? s.used).run s.lexing
  set { s with lexing }
  match t? with
  | some t => return t
  | none => malformed

/-- Goes past the next token. -/
def skip : Read Unit := modify fun s => { s with used := s.used + 1 }

/-- The next token is one of these. -/
def isNext (ts : List Token) : Read Bool := return ts.contains (← peek)

/-- Goes past the next token if it is this one. -/
def skipIf (t : Token) : Read Bool := do
  let found ← isNext [t]
  if found then skip
  return found

/-- Goes past this token, which must be next. -/
def expect (t : Token) : Read Unit := do
  if !(← skipIf t) then malformed

/-- The handles that every document knows. -/
def usualHandles : List (String × String) := [("!", "!"), ("!!", Kind.commonTag)]

/-- Reads the directives of a document; `versioned` tells whether its version has been given. -/
def directives : (fuel : Nat) → (versioned : Bool) → List (String × String) →
    Read (List (String × String))
  | 0, _, handles => return handles
  | fuel + 1, versioned, handles => do
    match ← peek with
    | .directive d =>
      skip
      match d with
      | .version major => if versioned || major != 1 then malformed else directives fuel true handles
      | .tagHandle handle full =>
        if handles.any (·.1 == handle) then malformed
        else directives fuel versioned (handles ++ [(handle, full)])
      | .other => directives fuel versioned handles
    | _ => return handles

/-- What stands before a node: an anchor and a tag, in either order. -/
structure Properties where
  anchor? : Option String := none
  tag? : Option String := none

/-- The tag in full. -/
def fullTag (handle? : Option String) (suffix : String) : Read String := do
  match handle? with
  | none => return suffix
  | some handle =>
    match (← get).handles.find? (·.1 == handle) with
    | some (_, full) => return full ++ suffix
    | none => malformed

/-- Reads the properties of a node. -/
def properties : Read Properties := do
  match ← peek with
  | .anchor name =>
    skip
    match ← peek with
    | .tag handle? suffix =>
      skip
      return ⟨some name, some (← fullTag handle? suffix)⟩
    | _ => return ⟨some name, none⟩
  | .tag handle? suffix =>
    skip
    match ← peek with
    | .anchor name =>
      skip
      return ⟨some name, some (← fullTag handle? suffix)⟩
    | _ => return ⟨none, some (← fullTag handle? suffix)⟩
  | _ => return {}

/-- The kind of a node: that of its tag, or the usual one without a tag or with the mark alone. -/
def Properties.kind? (p : Properties) (usual? : Option Kind) : Option Kind :=
  match p.tag? with
  | none => usual?
  | some tag => if tag == "!" then usual? else Kind.ofTag? tag

/-- The kind of a scalar. Only plain text, or any with the mark alone for a tag, looks like other
kinds. -/
def Properties.scalarKind? (p : Properties) (text? : Option String) (plain : Bool) : Option Kind :=
  p.kind? (match text? with
    | some text => if plain || p.tag?.isSome then Kind.ofPlain? text else some .text
    | none => some .text)

/-- Adds a node and gives it its name. -/
def addNode (p : Properties) (n : Node) : Read Nat := do
  let s ← get
  let id := s.nodes.size
  let anchors := match p.anchor? with
    | some name => (name, id) :: s.anchors
    | none => s.anchors
  set { s with nodes := s.nodes.push n, anchors }
  return id

/-- The node where none is written. -/
def empty : Read Nat := addNode {} ⟨some .null, .scalar (some "")⟩

/-- A scalar. -/
def scalar (p : Properties) (text? : Option String) (plain : Bool) : Read Nat :=
  addNode p ⟨p.scalarKind? text? plain, .scalar text?⟩

/-- A collection whose parts `parts` reads and `make` puts together. The parts may already refer to
it. -/
def collection {α : Type} (p : Properties) (usual : Kind) (make : List α → Content)
    (parts : Read (List α)) : Read Nat := do
  let kind? := p.kind? (some usual)
  let id ← addNode p ⟨kind?, make []⟩
  if maxDepth ≤ (← get).depth then throw .nesting
  modify fun s => { s with depth := s.depth + 1 }
  let content := make (← parts)
  modify fun s =>
    { s with nodes := s.nodes.setIfInBounds id ⟨kind?, content⟩, depth := s.depth - 1 }
  return id

mutual

/-- Reads a node. Block collections are read where `block` allows them, and list items without
indentation where `loose` does. -/
def node (block loose : Bool) : (fuel : Nat) → Read Nat
  | 0 => malformed
  | fuel + 1 => do
    match ← peek with
    | .alias name =>
      skip
      match (← get).anchors.find? (·.1 == name) with
      | some (_, id) => return id
      | none => malformed
    | _ =>
      let p ← properties
      let next ← peek
      if let some name := p.anchor? then
        if (← get).anchors.any (·.1 == name) then malformed
      match next with
      | .scalar text? plain =>
        skip
        scalar p text? plain
      | .flowSequence =>
        skip
        collection p .sequence .sequence (flowItems true fuel)
      | .flowMapping =>
        skip
        collection p .mapping .mapping (flowEntries true fuel)
      | t =>
        if loose && t == .blockEntry then collection p .sequence .sequence (looseItems fuel)
        else if block && t == .blockSequence then
          skip
          collection p .sequence .sequence (blockItems fuel)
        else if block && t == .blockMapping then
          skip
          collection p .mapping .mapping (blockEntries fuel)
        else if p.anchor?.isSome || p.tag?.isSome then scalar p (some "") true
        else malformed

/-- Reads a node, or the empty one before one of these tokens. -/
def nodeUnless (stops : List Token) (block loose : Bool) : (fuel : Nat) → Read Nat
  | 0 => malformed
  | fuel + 1 => do
    if ← isNext stops then empty else node block loose fuel

/-- Reads the items of a block sequence. -/
def blockItems : (fuel : Nat) → Read (List Nat)
  | 0 => malformed
  | fuel + 1 => do
    if ← skipIf .blockEntry then
      let item ← nodeUnless [.blockEntry, .blockEnd] true false fuel
      return item :: (← blockItems fuel)
    expect .blockEnd
    return []

/-- Reads items without indentation. -/
def looseItems : (fuel : Nat) → Read (List Nat)
  | 0 => malformed
  | fuel + 1 => do
    if ← skipIf .blockEntry then
      let item ← nodeUnless [.blockEntry, .key, .value, .blockEnd] true false fuel
      return item :: (← looseItems fuel)
    return []

/-- Reads the entries of a block mapping. -/
def blockEntries : (fuel : Nat) → Read (List (Nat × Nat))
  | 0 => malformed
  | fuel + 1 => do
    let stops : List Token := [.key, .value, .blockEnd]
    if ← skipIf .key then
      let key ← nodeUnless stops true true fuel
      let value ← if ← skipIf .value then nodeUnless stops true true fuel else empty
      return (key, value) :: (← blockEntries fuel)
    expect .blockEnd
    return []

/-- Reads the items of a flow sequence; a marked key makes an item a mapping of one entry. -/
def flowItems (first : Bool) : (fuel : Nat) → Read (List Nat)
  | 0 => malformed
  | fuel + 1 => do
    if ← skipIf .flowSequenceEnd then return []
    if !first then
      expect .flowEntry
      if ← skipIf .flowSequenceEnd then return []
    let item ←
      if ← skipIf .key then collection {} .mapping .mapping (flowPair fuel)
      else node false false fuel
    return item :: (← flowItems false fuel)

/-- Reads the one entry of a mapping that is an item of a flow sequence, after the mark of its key. -/
def flowPair : (fuel : Nat) → Read (List (Nat × Nat))
  | 0 => malformed
  | fuel + 1 => do
    let key ← nodeUnless [.value, .flowEntry, .flowSequenceEnd] false false fuel
    let value ←
      if ← skipIf .value then nodeUnless [.flowEntry, .flowSequenceEnd] false false fuel
      else empty
    return [(key, value)]

/-- Reads the entries of a flow mapping; a node without a mark is a key without a value. -/
def flowEntries (first : Bool) : (fuel : Nat) → Read (List (Nat × Nat))
  | 0 => malformed
  | fuel + 1 => do
    if ← skipIf .flowMappingEnd then return []
    if !first then
      expect .flowEntry
      if ← skipIf .flowMappingEnd then return []
    let entry ←
      if ← skipIf .key then do
        let key ← nodeUnless [.value, .flowEntry, .flowMappingEnd] false false fuel
        let value ←
          if ← skipIf .value then nodeUnless [.flowEntry, .flowMappingEnd] false false fuel
          else empty
        pure (key, value)
      else do
        let key ← node false false fuel
        let value ← empty
        pure (key, value)
    return entry :: (← flowEntries false fuel)

end

/-- Reads the directives of a document and the mark that ends them. -/
def start (fuel : Nat) : Read Unit := do
  let handles ← directives fuel false []
  expect .documentStart
  modify fun s =>
    { s with handles := handles ++ usualHandles.filter fun u => !handles.any (·.1 == u.1) }

/-- Reads the root of a document that begins here. -/
def root (fuel : Nat) : Read Nat := do
  match ← peek with
  | .directive _ | .documentStart =>
    start fuel
    match ← peek with
    | .directive _ | .documentStart | .documentEnd | .textEnd => empty
    | _ => node true false fuel
  | _ =>
    modify fun s => { s with handles := usualHandles }
    node true false fuel

/-- Reads the marks of the end of a document. -/
def ends : (fuel : Nat) → Read Unit
  | 0 => pure ()
  | fuel + 1 => do
    if ← skipIf .documentEnd then ends fuel

/-- Reads the document of a text, if it holds one; it must hold no more than one. -/
def single (fuel : Nat) : Read (Option Nat) := do
  if ← isNext [.textEnd] then return none
  let id ← root fuel
  ends fuel
  if !(← isNext [.textEnd]) then
    start fuel
    malformed
  return some id

/-- The document that a text holds. A character makes up four tokens at most, and a node takes a token
or is the last of its kind in a chain of at most three, which bounds how deep reading goes. -/
def ofText (text : List Char) : Except Fault Document := do
  let (root?, s) ← (single (16 * text.length + 32)).run { lexing := .ofText text }
  return ⟨s.nodes, root?⟩

end Document

end PeFacts.Yaml
