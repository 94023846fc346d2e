import PeFacts.Yaml.Scalar

/-!
# YAML tokens

A token is an indicator, a scalar or a property of a node. Indentation counts outside flow
collections, so the tokens also say where block collections begin and end. A mapping key need not be
marked: whatever may turn out to be a key is remembered as a `Candidate`, and the tokens for the key
are put in front of it when the colon comes. `Token.number?` gives the tokens one by one and reads no
further in the text than it must, so that a fault is found only where the reading gets there.
-/

namespace PeFacts.Yaml

/-- An instruction before a document. -/
inductive Directive
  | version (major : Nat)
  /-- Tags that begin with the handle begin in full with the other text. -/
  | tagHandle (handle full : String)
  | other
  deriving Repr, DecidableEq

/-- A piece of a YAML text. -/
inductive Token
  | directive (d : Directive)
  | documentStart
  | documentEnd
  | textEnd
  | blockSequence
  | blockMapping
  | blockEnd
  | flowSequence
  | flowSequenceEnd
  | flowMapping
  | flowMappingEnd
  | flowEntry
  | blockEntry
  | key
  | value
  | alias (name : String)
  | anchor (name : String)
  /-- A tag; without a handle it is written in full. -/
  | tag (handle? : Option String) (suffix : String)
  /-- A scalar; without a text it holds what is no character. -/
  | scalar (text? : Option String) (plain : Bool)
  deriving Repr, DecidableEq

namespace Token

/-- What may turn out to be a mapping key: the number of its first token, where it begins, and whether
it must be a key because it begins a line of a block mapping. -/
structure Candidate where
  level : Nat
  token : Nat
  required : Bool
  place : Place
  deriving Repr

/-- How far the colon may be from the beginning of its key. -/
def maxKeyLength : Nat := 1024

/-- The tokens read so far, and what decides about the next one. -/
structure Lexing where
  place : Place
  /-- Reading on so often reaches the end of the text. -/
  bound : Nat
  tokens : Array Token := #[]
  /-- How many flow collections are open. -/
  flowLevel : Nat := 0
  /-- The column of the innermost block collection. -/
  indent : Int := -1
  /-- The columns of the block collections around it. -/
  outer : List Int := []
  /-- An unmarked key may begin here. -/
  keyAllowed : Bool := true
  candidates : List Candidate := []
  ended : Bool := false

/-- Reads a part of a text. -/
abbrev Lex (α : Type) := StateT Lexing (Except Fault) α

/-- Nothing in the language can stand here. -/
def malformed {α : Type} : Lex α := throw .malformed

/-- A flow collection is open. -/
def inFlow : Lex Bool := return 0 < (← get).flowLevel

/-- Adds a token. -/
def emit (t : Token) : Lex Unit := modify fun s => { s with tokens := s.tokens.push t }

/-- Goes on from a place. -/
def moveTo (p : Place) : Lex Unit := modify fun s => { s with place := p }

/-- Says whether an unmarked key may come next. -/
def allowKey (allowed : Bool) : Lex Unit := modify fun s => { s with keyAllowed := allowed }

/-- Closes the block collections that begin to the right of `column`, innermost first. -/
def closedTo (column : Int) (s : Lexing) : List Int → Lexing
  | [] => s
  | before :: outer =>
    if column < s.indent then
      closedTo column { s with indent := before, outer, tokens := s.tokens.push .blockEnd } outer
    else s

/-- Closes the block collections that begin to the right of `column`. -/
def closeBlocks (column : Int) : Lex Unit := do
  if !(← inFlow) then modify fun s => closedTo column s s.outer

/-- Opens a block collection at `column`, unless one is open there; `kind` begins it, put in at a place if that is given. -/
def openBlock (column : Nat) (kind : Token) (at? : Option Nat := none) : Lex Unit := do
  let s ← get
  if !(← inFlow) && s.indent < column then
    let tokens := match at? with
      | some i => s.tokens.insertIdxIfInBounds i kind
      | none => s.tokens.push kind
    set { s with indent := column, outer := s.indent :: s.outer, tokens }

/-- Drops the candidate of this level; a required one cannot be dropped. -/
def dropCandidate : Lex Unit := do
  let s ← get
  if s.candidates.any fun c => c.level == s.flowLevel && c.required then malformed
  set { s with candidates := s.candidates.filter (·.level != s.flowLevel) }

/-- Drops the candidates that are no longer on the line or too far behind. -/
def dropStale : Lex Unit := do
  let s ← get
  let stale := fun (c : Candidate) =>
    c.place.line != s.place.line || maxKeyLength < s.place.index - c.place.index
  if s.candidates.any fun c => stale c && c.required then malformed
  set { s with candidates := s.candidates.filter fun c => !stale c }

/-- Remembers that a key may begin here. -/
def addCandidate : Lex Unit := do
  if (← get).keyAllowed then
    dropCandidate
    modify fun s =>
      let required := s.flowLevel == 0 && s.indent == s.place.column
      { s with candidates := ⟨s.flowLevel, s.tokens.size, required, s.place⟩ :: s.candidates }

/-- Passes over spaces, comments and line breaks. A new line may begin with an unmarked key. -/
def skipBlanks : (fuel : Nat) → Lex Unit
  | 0 => pure ()
  | fuel + 1 => do
    let p := ((← get).place.dropWhile (· == ' ')).skipComment
    match p.lineBreak? with
    | none => moveTo p
    | some (_, q) =>
      moveTo q
      if !(← inFlow) then allowKey true
      skipBlanks fuel

/-! ## Directives and properties of nodes -/

/-- Characters of a tag besides letters and digits. -/
def tagChars : List Char := "-;/?:@&=+$,_.!~*'()[]".toList

/-- The octets of escapes, each a percent sign and two hexadecimal digits. -/
def octetEscapes : (fuel : Nat) → Place → Except Fault (List UInt8 × Place)
  | 0, p => .ok ([], p)
  | fuel + 1, p =>
    if p.startsWith '%' then
      match hexNumber? 2 p.next.rest with
      | none => .error .malformed
      | some n => (octetEscapes fuel (p.skip 3)).map fun (octets, q) => (n.toUInt8 :: octets, q)
    else .ok ([], p)

/-- The characters of a tag; escaped octets are UTF-8. -/
def tagText : (fuel : Nat) → Place → List Char → Except Fault (List Char × Place)
  | 0, p, done => .ok (done, p)
  | fuel + 1, p, done =>
    match p.rest with
    | [] => .ok (done, p)
    | c :: _ =>
      if c == '%' then do
        let (octets, q) ← octetEscapes p.rest.length p
        match String.fromUTF8? ⟨octets.toArray⟩ with
        | some s => tagText fuel q (done ++ s.toList)
        | none => throw .malformed
      else if c.isAlphanum || tagChars.contains c then tagText fuel p.next (done ++ [c])
      else .ok (done, p)

/-- The tag at the front, which must not be empty. -/
def tagSuffix (p : Place) : Except Fault (String × Place) := do
  let (text, q) ← tagText p.rest.length p []
  if text.isEmpty then throw .malformed
  return (String.ofList text, q)

/-- The handle at the front: a mark, or a name between two marks. -/
def tagHandle (p : Place) : Except Fault (String × Place) :=
  if !p.startsWith '!' then .error .malformed
  else if p.next.startsWith ' ' then .ok ("!", p.next)
  else
    let (name, q) := p.next.takeWhile isNameChar
    if q.startsWith '!' then .ok (String.ofList ('!' :: name ++ ['!']), q.next)
    else .error .malformed

/-- The number at the front. -/
def versionNumber (p : Place) : Except Fault (Nat × Place) :=
  let (digits, q) := p.takeWhile Char.isDigit
  if digits.isEmpty then .error .malformed
  else if maxDecimalDigits < digits.length then .error .version
  else .ok (digits.foldl (fun n c => 10 * n + (c.toNat - '0'.toNat)) 0, q)

/-- The arguments of the directive `name`. -/
def directiveOf (name : String) (p : Place) : Except Fault (Directive × Place) := do
  let args := p.dropWhile (· == ' ')
  if name == "YAML" then
    let (major, q) ← versionNumber args
    if !q.startsWith '.' then throw .malformed
    let (_, q) ← versionNumber q.next
    if !endsWord q.rest then throw .malformed
    return (.version major, q)
  else if name == "TAG" then
    let (handle, q) ← tagHandle args
    if !q.startsWith ' ' then throw .malformed
    let (full, q) ← tagSuffix (q.dropWhile (· == ' '))
    if !endsWord q.rest then throw .malformed
    return (.tagHandle handle full, q)
  else return (.other, p.lineEnd)

/-- The directive at the front, with its line. -/
def directiveAt (p : Place) : Except Fault (Directive × Place) := do
  let (name, q) := p.next.takeWhile isNameChar
  if name.isEmpty || !endsWord q.rest then throw .malformed
  let (d, q) ← directiveOf (String.ofList name) q
  match q.finishLine? with
  | some q => return (d, q)
  | none => throw .malformed

/-- The name of an anchor or alias at the front, after its mark. -/
def anchorName (p : Place) : Except Fault (String × Place) :=
  let (name, q) := p.next.takeWhile isNameChar
  let ends := endsToken q.rest || q.rest.head?.any fun c => "?:,]\x7d%@`".toList.contains c
  if name.isEmpty || !ends then .error .malformed else .ok (String.ofList name, q)

/-- The tag at the front: in angle brackets, a mark alone, or a handle and a suffix. -/
def tagAt (p : Place) : Except Fault (Token × Place) := do
  let (token, q) ←
    if p.next.startsWith '<' then do
      let (suffix, q) ← tagSuffix (p.skip 2)
      if !q.startsWith '>' then throw .malformed
      pure (Token.tag none suffix, q.next)
    else if endsToken p.next.rest then pure (Token.tag none "!", p.next)
    else do
      let word := p.next.rest.takeWhile fun c => c != ' ' && !isBreak c
      let (handle, q) ← if word.contains '!' then tagHandle p else pure ("!", p.next)
      let (suffix, q) ← tagSuffix q
      pure (Token.tag (some handle) suffix, q)
  if !endsWord q.rest then throw .malformed
  return (token, q)

/-! ## One token -/

/-- The end of the text. -/
def finish : Lex Unit := do
  closeBlocks (-1)
  dropCandidate
  emit .textEnd
  modify fun s => { s with keyAllowed := false, candidates := [], ended := true }

/-- A directive or the mark of a document, which end all block collections; `read` gives it and what
follows. -/
def topLevel (read : Place → Except Fault (Token × Place)) : Lex Unit := do
  closeBlocks (-1)
  dropCandidate
  allowKey false
  let (t, q) ← read (← get).place
  emit t
  moveTo q

/-- The beginning of a flow collection, which may be a key. -/
def openFlow (t : Token) : Lex Unit := do
  addCandidate
  modify fun s => { s with flowLevel := s.flowLevel + 1 }
  allowKey true
  emit t
  moveTo (← get).place.next

/-- The end of a flow collection. -/
def closeFlow (t : Token) : Lex Unit := do
  if !(← inFlow) then malformed
  dropCandidate
  modify fun s => { s with flowLevel := s.flowLevel - 1 }
  allowKey false
  emit t
  moveTo (← get).place.next

/-- A comma in a flow collection. -/
def entryMark : Lex Unit := do
  allowKey true
  dropCandidate
  emit .flowEntry
  moveTo (← get).place.next

/-- The mark of a list item or of a key, which begins a collection of the given kind. -/
def blockMark (t kind : Token) (allowed : Bool) : Lex Unit := do
  let s ← get
  if !(← inFlow) && !s.keyAllowed then malformed
  openBlock s.place.column kind
  allowKey allowed
  dropCandidate
  emit t
  moveTo s.place.next

/-- A colon. The candidate of this level turns out to be a key. -/
def valueMark : Lex Unit := do
  let s ← get
  match s.candidates.find? (·.level == s.flowLevel) with
  | some c =>
    set { s with
      candidates := s.candidates.filter (·.level != s.flowLevel)
      tokens := s.tokens.insertIdxIfInBounds c.token .key }
    openBlock c.place.column .blockMapping (some c.token)
    allowKey false
    emit .value
    moveTo s.place.next
  | none => blockMark .value .blockMapping (s.flowLevel == 0)

/-- A node property or a scalar, which may be a key; `read` gives it and what follows. -/
def nodePart (read : Place → Except Fault (Token × Place)) : Lex Unit := do
  addCandidate
  allowKey false
  let (t, q) ← read (← get).place
  emit t
  moveTo q

/-- A block scalar, after which a new line begins. -/
def blockText (folded : Bool) : Lex Unit := do
  let s ← get
  allowKey true
  dropCandidate
  let scanned ← blockScalar folded s.indent s.place
  emit (.scalar (some (String.ofList scanned.text)) false)
  moveTo scanned.place

/-- A quoted scalar. -/
def quotedText (quote : Char) : Lex Unit :=
  nodePart fun p => (quotedScalar quote p).map fun (piece, q) =>
    (.scalar (piece.map String.ofList) false, q)

/-- A plain scalar. -/
def plainText : Lex Unit := do
  let s ← get
  let scanned := plainScalar (← inFlow) (s.indent + 1) s.place
  nodePart fun _ => .ok (.scalar (some (String.ofList scanned.text)) true, scanned.place)
  allowKey scanned.newLine

/-- Characters that do not begin a plain scalar. -/
def indicators : List Char := "-?:,[]\x7b\x7d#&*!|>'\"%@`".toList

/-- A plain scalar begins at the front. -/
def beginsPlain (inFlow : Bool) (cs : List Char) : Bool :=
  match cs with
  | [] => false
  | c :: rest =>
    !(isSpace c || isBreak c || indicators.contains c) ||
      (!endsToken rest && (c == '-' || (!inFlow && (c == '?' || c == ':'))))

/-- Reads the token that begins with `c`. -/
def tokenAt (c : Char) (p : Place) : Lex Unit := do
  let flow ← inFlow
  let alone := endsToken p.next.rest
  if p.column = 0 && c == '%' then
    topLevel fun p => (directiveAt p).map fun (d, q) => (.directive d, q)
  else if p.column = 0 && p.isMarker '-' then topLevel fun p => .ok (.documentStart, p.skip 3)
  else if p.column = 0 && p.isMarker '.' then topLevel fun p => .ok (.documentEnd, p.skip 3)
  else if c == '[' then openFlow .flowSequence
  else if c == '\x7b' then openFlow .flowMapping
  else if c == ']' then closeFlow .flowSequenceEnd
  else if c == '\x7d' then closeFlow .flowMappingEnd
  else if c == ',' then entryMark
  else if c == '-' && alone then blockMark .blockEntry .blockSequence true
  else if c == '?' && (flow || alone) then blockMark .key .blockMapping (!flow)
  else if c == ':' && (flow || alone) then valueMark
  else if c == '*' then nodePart fun p => (anchorName p).map fun (name, q) => (.alias name, q)
  else if c == '&' then nodePart fun p => (anchorName p).map fun (name, q) => (.anchor name, q)
  else if c == '!' then nodePart tagAt
  else if c == '|' && !flow then blockText false
  else if c == '>' && !flow then blockText true
  else if c == '\'' || c == '"' then quotedText c
  else if beginsPlain flow p.rest then plainText
  else malformed

/-- Reads the next token. -/
def nextToken : Lex Unit := do
  skipBlanks (← get).bound
  dropStale
  let p := (← get).place
  closeBlocks p.column
  match p.rest with
  | [] => finish
  | c :: _ => tokenAt c p

/-- Token number `n` has been read and cannot turn out to be a key any more. -/
def isSettled (n : Nat) : Lex Bool := do
  if (← get).ended then return true
  if (← get).tokens.size ≤ n then return false
  dropStale
  return !(← get).candidates.any (·.token == n)

/-- Reads on until token number `n` is settled. -/
def settle (n : Nat) : (fuel : Nat) → Lex Unit
  | 0 => pure ()
  | fuel + 1 => do
    if !(← isSettled n) then
      nextToken
      settle n fuel

/-- Token number `n`, when the ones before it have been asked for. Every token but the last takes a
character, which bounds how many are read. -/
def number? (n : Nat) : Lex (Option Token) := do
  settle n (← get).bound
  return (← get).tokens[n]?

/-- The state before the first token of a text. A byte order mark at the beginning is skipped. -/
def Lexing.ofText (text : List Char) : Lexing :=
  let p : Place := { rest := text }
  { place := if p.startsWith '\uFEFF' then p.next else p, bound := text.length + 2 }

end Token

end PeFacts.Yaml
