import PeFacts.Yaml.Place

/-!
# The text of YAML scalars

A scalar is written plain, in quotes or as a block. Each reader gives the text that the scalar stands
for and the place after it: a line break inside a plain, quoted or folded scalar reads as a space,
and blank lines as line breaks. Only in double quotes can a scalar have escapes that are no character.
-/

namespace PeFacts.Yaml

/-- Blank lines and spaces at the front: the breaks among them, or nothing if the beginning or the
end of a document follows a break. -/
def blankLines : (fuel : Nat) → Place → List Char → Option (List Char) × Place
  | 0, p, breaks => (some breaks, p)
  | fuel + 1, p, breaks =>
    if p.startsWith ' ' then blankLines fuel p.next breaks
    else
      match p.lineBreak? with
      | none => (some breaks, p)
      | some (b, q) =>
        if q.isSeparator then (none, q) else blankLines fuel q (breaks ++ [b])

/-- What a line break and the breaks after it read as. -/
def foldedBreaks (first : Char) (more : List Char) : List Char :=
  if first != '\n' then first :: more else if more.isEmpty then [' '] else more

/-! ## Plain scalars -/

/-- The length of the part of a plain scalar that stands on this line before a space. -/
def plainLength (inFlow : Bool) : List Char → Nat
  | [] => 0
  | c :: rest =>
    let endsKey := c == ':' &&
      (endsToken rest || (inFlow && rest.head?.any fun d => [',', '[', ']', '\x7b', '\x7d'].contains d))
    if isSpace c || isBreak c || endsKey ||
        (inFlow && [',', '?', '[', ']', '\x7b', '\x7d'].contains c) then 0
    else plainLength inFlow rest + 1

/-- The blanks and breaks between two parts of a plain scalar. Nothing between them means that the
scalar ends. -/
structure PlainGap where
  chars : List Char
  place : Place
  /-- A line has ended. -/
  newLine : Bool

/-- The gap at the front. -/
def plainGap (p : Place) : PlainGap :=
  let (spaces, q) := p.takeWhile (· == ' ')
  match q.lineBreak? with
  | none => ⟨spaces, q, false⟩
  | some (first, q) =>
    if q.isSeparator then ⟨[], q, true⟩
    else
      match blankLines q.rest.length q [] with
      | (none, q) => ⟨[], q, true⟩
      | (some more, q) => ⟨foldedBreaks first more, q, true⟩

/-- A scalar that has been read. -/
structure Scanned where
  text : List Char
  place : Place
  /-- The scalar reaches to the end of its line. -/
  newLine : Bool := false

/-- Reads parts of a plain scalar that must be indented by `indent` at least; `before` holds what has
been read, last character first. -/
def plainFrom (inFlow : Bool) (indent : Int) : (fuel : Nat) → PlainGap → (before : List Char) → Scanned
  | 0, gap, before => ⟨before.reverse, gap.place, gap.newLine⟩
  | fuel + 1, gap, before =>
    let p := gap.place
    let length := if p.startsWith '#' then 0 else plainLength inFlow p.rest
    if length = 0 then ⟨before.reverse, p, gap.newLine⟩
    else
      let before := (p.rest.take length).reverse ++ (gap.chars.reverse ++ before)
      let after := plainGap (p.skip length)
      if after.chars.isEmpty || after.place.startsWith '#' ||
          (!inFlow && after.place.column < indent) then ⟨before.reverse, after.place, after.newLine⟩
      else plainFrom inFlow indent fuel after before

/-- The plain scalar at the front. -/
def plainScalar (inFlow : Bool) (indent : Int) (p : Place) : Scanned :=
  plainFrom inFlow indent p.rest.length ⟨[], p, false⟩ []

/-! ## Quoted scalars -/

/-- Characters that stand for others after a backslash. -/
def escapes : List (Char × Char) := [
  ('0', '\x00'), ('a', '\x07'), ('b', '\x08'), ('t', '\t'), ('\t', '\t'), ('n', '\n'),
  ('v', '\x0b'), ('f', '\x0c'), ('r', '\r'), ('e', '\x1b'), (' ', ' '), ('"', '"'),
  ('\\', '\\'), ('/', '/'), ('N', '\x85'), ('_', '\xa0'), ('L', '\u2028'), ('P', '\u2029')]

/-- Characters after which a character is given by so many hexadecimal digits. -/
def numericEscapes : List (Char × Nat) := [('x', 2), ('u', 4), ('U', 8)]

/-- The value of a hexadecimal digit. -/
def hexValue? (c : Char) : Option Nat :=
  if c.isDigit then some (c.toNat - '0'.toNat)
  else if 'a' ≤ c && c ≤ 'f' then some (c.toNat - 'a'.toNat + 10)
  else if 'A' ≤ c && c ≤ 'F' then some (c.toNat - 'A'.toNat + 10)
  else none

/-- The number in the first `count` characters, which must be hexadecimal digits. -/
def hexNumber? (count : Nat) (cs : List Char) : Option Nat :=
  let digits := cs.take count
  if digits.length = count then
    digits.foldlM (fun n c => (hexValue? c).map (16 * n + ·)) 0
  else none

/-- The breaks of blank lines inside a quoted scalar. -/
def quotedBreaks : (fuel : Nat) → Place → List Char → Except Fault (List Char × Place)
  | 0, p, breaks => .ok (breaks, p)
  | fuel + 1, p, breaks =>
    if p.isSeparator then .error .malformed
    else
      let p := p.dropWhile isSpace
      match p.lineBreak? with
      | none => .ok (breaks, p)
      | some (b, q) => quotedBreaks fuel q (breaks ++ [b])

/-- Part of a text, or nothing where the text holds half of a surrogate pair, which is no character. -/
abbrev Piece := Option (List Char)

/-- Adds a piece to what has been read, which stands last character first. -/
def Piece.add (before piece : Piece) : Piece :=
  (fun before cs => cs.reverse ++ before) <$> before <*> piece

/-- The character that an escape at `p`, after its backslash, stands for. A line break stands for the
blank lines after it. -/
def escaped (p : Place) : Except Fault (Piece × Place) :=
  match p.rest with
  | [] => .error .malformed
  | c :: rest =>
    match escapes.find? (·.1 == c), numericEscapes.find? (·.1 == c) with
    | some (_, meant), _ => .ok (some [meant], p.next)
    | none, some (_, count) =>
      match hexNumber? count rest with
      | none => .error .malformed
      | some code =>
        if 0x110000 ≤ code then .error (.character code)
        else
          .ok (if code.isValidChar then some [Char.ofNat code] else none, p.skip (count + 1))
    | none, none =>
      match p.lineBreak? with
      | none => .error .malformed
      | some (_, q) => (quotedBreaks q.rest.length q []).map fun (breaks, q) => (some breaks, q)

/-- The blanks at the front inside a quoted scalar, or what the line breaks there read as. -/
def quotedGap (p : Place) : Except Fault (List Char × Place) :=
  let (spaces, q) := p.takeWhile isSpace
  if q.rest.isEmpty then .error .malformed
  else
    match q.lineBreak? with
    | none => .ok (spaces, q)
    | some (first, q) =>
      (quotedBreaks (q.rest.length + 1) q []).map fun (more, q) => (foldedBreaks first more, q)

/-- Reads a quoted scalar up to the quote that ends it; `before` holds what has been read, last
character first. In single quotes two quotes stand for one, and only in double quotes a backslash
begins an escape. -/
def quotedFrom (quote : Char) : (fuel : Nat) → Place → (before : Piece) → Except Fault (Piece × Place)
  | 0, _, _ => .error .malformed
  | fuel + 1, p, before =>
    match p.rest with
    | [] => .error .malformed
    | c :: rest =>
      if c == quote then
        if quote == '\'' && rest.head? == some quote then
          quotedFrom quote fuel (p.skip 2) (before.add (some [quote]))
        else .ok (before.map List.reverse, p.next)
      else if quote == '"' && c == '\\' then do
        let (meant, q) ← escaped p.next
        quotedFrom quote fuel q (before.add meant)
      else if isSpace c || isBreak c then do
        let (gap, q) ← quotedGap p
        quotedFrom quote fuel q (before.add (some gap))
      else quotedFrom quote fuel p.next (before.add (some [c]))

/-- The quoted scalar at the front. -/
def quotedScalar (quote : Char) (p : Place) : Except Fault (Piece × Place) :=
  quotedFrom quote p.rest.length p.next (some [])

/-! ## Block scalars -/

/-- What becomes of the line breaks at the end of a block scalar. -/
inductive Chomping
  /-- The last line keeps its break. -/
  | clip
  /-- No break is kept. -/
  | strip
  /-- All breaks are kept. -/
  | keep
  deriving Repr, DecidableEq

/-- The chomping indicator at the front. -/
def chomping? (p : Place) : Option (Chomping × Place) :=
  if p.startsWith '+' then some (.keep, p.next)
  else if p.startsWith '-' then some (.strip, p.next)
  else none

/-- The indentation indicator at the front; zero is none. -/
def indentation? (p : Place) : Except Fault (Option Nat × Place) :=
  match p.rest with
  | c :: _ =>
    if c == '0' then .error .malformed
    else if c.isDigit then .ok (some (c.toNat - '0'.toNat), p.next)
    else .ok (none, p)
  | [] => .ok (none, p)

/-- The indicators of a block scalar, in either order, and the rest of their line. -/
def blockHeader (p : Place) : Except Fault (Chomping × Option Nat × Place) := do
  let (chomping, indentation, p) ← match chomping? p with
    | some (chomping, p) => do
      let (indentation, p) ← indentation? p
      pure (chomping, indentation, p)
    | none => do
      let (indentation, p) ← indentation? p
      if indentation.isSome then
        let (chomping, p) := (chomping? p).getD (.clip, p)
        pure (chomping, indentation, p)
      else pure (.clip, none, p)
  if !endsWord p.rest then throw .malformed
  match p.finishLine? with
  | some p => return (chomping, indentation, p)
  | none => throw .malformed

/-- The place after the spaces up to column `indent`. -/
def skipIndent (indent : Nat) (p : Place) : Place :=
  p.skip (min (indent - p.column) (p.rest.takeWhile (· == ' ')).length)

/-- The blank lines before the first line of a block scalar, the place of that line, and the greatest
column reached. -/
def blockIndentation : (fuel : Nat) → Place → List Char → Nat → List Char × Nat × Place
  | 0, p, breaks, greatest => (breaks, greatest, p)
  | fuel + 1, p, breaks, greatest =>
    if p.startsWith ' ' then blockIndentation fuel p.next breaks (max greatest p.next.column)
    else
      match p.lineBreak? with
      | none => (breaks, greatest, p)
      | some (b, q) => blockIndentation fuel q (breaks ++ [b]) greatest

/-- The blank lines between two lines of a block scalar. -/
def blockBreaks (indent : Nat) : (fuel : Nat) → Place → List Char → List Char × Place
  | 0, p, breaks => (breaks, p)
  | fuel + 1, p, breaks =>
    let p := skipIndent indent p
    match p.lineBreak? with
    | none => (breaks, p)
    | some (b, q) => blockBreaks indent fuel q (breaks ++ [b])

/-- The lines of a block scalar: its text without the breaks at its end and last character first, the
breaks of its last line and those of the blank lines after it. -/
structure BlockLines where
  reversed : List Char
  lastBreak : List Char
  breaks : List Char
  place : Place

/-- Reads lines that are indented by `indent`. In a folded scalar the break between two lines reads as
a space, unless one of them begins with a blank. -/
def blockLines (folded : Bool) (indent : Nat) : (fuel : Nat) → BlockLines → BlockLines
  | 0, b => b
  | fuel + 1, b =>
    let p := b.place
    if p.column != indent || p.rest.isEmpty then b
    else
      let (line, q) := p.takeWhile fun c => !isBreak c
      let (lineBreak, q) := match q.lineBreak? with
        | some (c, q) => ([c], q)
        | none => ([], q)
      let (breaks, q) := blockBreaks indent (q.rest.length + 1) q []
      let reversed := line.reverse ++ (b.breaks.reverse ++ b.reversed)
      if q.column = indent && !q.rest.isEmpty then
        let startsBlank := line.head?.any isSpace
        let joins := folded && lineBreak == ['\n'] && !startsBlank && !q.rest.head?.any isSpace
        let between := if joins then (if breaks.isEmpty then [' '] else []) else lineBreak
        blockLines folded indent fuel ⟨between.reverse ++ reversed, [], breaks, q⟩
      else ⟨reversed, lineBreak, breaks, q⟩

/-- The block scalar at the front, inside a collection that is indented by `outer`. -/
def blockScalar (folded : Bool) (outer : Int) (p : Place) : Except Fault Scanned := do
  let (chomping, indentation, p) ← blockHeader p.next
  let least := max 1 (outer + 1).toNat
  let (breaks, indent, p) := match indentation with
    | some n =>
      let indent := least + n - 1
      let (breaks, p) := blockBreaks indent (p.rest.length + 1) p []
      (breaks, indent, p)
    | none =>
      let (breaks, greatest, p) := blockIndentation p.rest.length p [] 0
      (breaks, max least greatest, p)
  let b := blockLines folded indent (p.rest.length + 1) ⟨[], [], breaks, p⟩
  let ending := match chomping with
    | .strip => []
    | .clip => b.lastBreak
    | .keep => b.lastBreak ++ b.breaks
  return ⟨b.reversed.reverse ++ ending, b.place, false⟩

end PeFacts.Yaml
