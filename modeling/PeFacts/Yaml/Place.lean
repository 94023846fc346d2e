/-!
# Places in a YAML text

A `Place` is what is left of a text with the line and column where that begins. Line breaks are line
feeds, next-line characters and the two Unicode separators; the first two are read as line feeds.
The byte order mark takes no column.
-/

namespace PeFacts.Yaml

/-- Why a text gives no value. -/
inductive Fault
  /-- The text is no document: a character, an indentation, a tag or an anchor is out of place. -/
  | malformed
  /-- A character was given by a number beyond all characters. -/
  | character (code : Nat)
  /-- The number of a version has too many digits. -/
  | version
  /-- Collections stand too deep in each other, or a node is its own default value. -/
  | nesting
  /-- A scalar does not read as the number, date or time that it should be. -/
  | scalar
  /-- A number with a fraction has too many sexagesimal places. -/
  | range
  /-- A number has no digits at all. -/
  | emptyNumber
  /-- A truth value is given by an unknown word. -/
  | word
  /-- A text that should be a date has not the form of one. -/
  | date
  /-- A mapping stands where the text of a date should be. -/
  | dateMapping
  deriving Repr, DecidableEq

/-- Longer numbers to the base ten are not read. -/
def maxDecimalDigits : Nat := 4300

/-- The character ends a line. -/
def isBreak (c : Char) : Bool := c == '\n' || c == '\x85' || c == '\u2028' || c == '\u2029'

/-- The character is a space or a tab. -/
def isSpace (c : Char) : Bool := c == ' ' || c == '\t'

/-- A line ends at the front of a text. -/
def endsLine (cs : List Char) : Bool := cs.head?.all isBreak

/-- A line ends or a space stands at the front of a text. -/
def endsWord (cs : List Char) : Bool := cs.head?.all fun c => c == ' ' || isBreak c

/-- A line ends or a blank stands at the front of a text. -/
def endsToken (cs : List Char) : Bool := cs.head?.all fun c => isSpace c || isBreak c

/-- The character may stand in the name of an anchor, a tag handle or a directive. -/
def isNameChar (c : Char) : Bool := c.isAlphanum || c == '-' || c == '_'

/-- What is left of a text, and where that begins. -/
structure Place where
  rest : List Char
  index : Nat := 0
  line : Nat := 0
  column : Nat := 0
  deriving Repr, DecidableEq

namespace Place

/-- The place after the next character. -/
def next (p : Place) : Place :=
  match p.rest with
  | [] => p
  | c :: rest =>
    if isBreak c then ⟨rest, p.index + 1, p.line + 1, 0⟩
    else ⟨rest, p.index + 1, p.line, if c == '\uFEFF' then p.column else p.column + 1⟩

/-- The place after `n` characters. -/
def skip : Nat → Place → Place
  | 0, p => p
  | n + 1, p => skip n p.next

/-- The characters at the front that all have the property, and the place after them. -/
def takeWhile (p : Place) (property : Char → Bool) : List Char × Place :=
  let taken := p.rest.takeWhile property
  (taken, p.skip taken.length)

/-- The place after the characters at the front that all have the property. -/
def dropWhile (p : Place) (property : Char → Bool) : Place := (p.takeWhile property).2

/-- The character stands at the front. -/
def startsWith (p : Place) (c : Char) : Bool := p.rest.head? == some c

/-- The end of the line. -/
def lineEnd (p : Place) : Place := p.dropWhile fun c => !isBreak c

/-- The place after a comment, if there is one. -/
def skipComment (p : Place) : Place := if p.startsWith '#' then p.lineEnd else p

/-- The line break at the front as it is read, and the place after it. -/
def lineBreak? (p : Place) : Option (Char × Place) :=
  match p.rest with
  | [] => none
  | c :: _ =>
    if c == '\n' || c == '\x85' then some ('\n', p.next)
    else if isBreak c then some (c, p.next)
    else none

/-- The place after a comment and the end of the line, which must be all that the line still holds. -/
def finishLine? (p : Place) : Option Place :=
  let q := (p.dropWhile (· == ' ')).skipComment
  if endsLine q.rest then some ((q.lineBreak?.map (·.2)).getD q) else none

/-- Three times this character stands at the front, alone. -/
def isMarker (p : Place) (c : Char) : Bool :=
  p.rest.take 3 == [c, c, c] && endsToken (p.rest.drop 3)

/-- The beginning or the end of a document stands at the front. -/
def isSeparator (p : Place) : Bool := p.isMarker '-' || p.isMarker '.'

end Place

end PeFacts.Yaml
