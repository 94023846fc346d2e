/-!
# Console markup

Text for the console may hold tags in brackets, which style what follows. A backslash before a
tag makes it plain text, and two of them stand for a backslash. `escape` writes any text so that it
is shown as it is.
-/

namespace PeFacts.Markup

/-- The character can begin a tag. -/
def isTagStart (c : Char) : Bool := c.isLower || c == '#' || c == '/' || c == '@'

/-- What follows a bracket makes it the beginning of a tag: the tag ends before another bracket
opens. -/
def opensTag : List Char → Bool
  | [] => false
  | c :: rest => isTagStart c && (rest.takeWhile (· != '[')).contains ']'

/-- Escapes every tag; `run` backslashes stand directly before. They are doubled before a tag, which
gets one more. -/
def escapeFrom (run : Nat) : List Char → List Char
  | [] => []
  | c :: rest =>
    if c = '\\' then c :: escapeFrom (run + 1) rest
    else if c = '[' && opensTag rest then
      List.replicate (run + 1) '\\' ++ c :: escapeFrom 0 rest
    else c :: escapeFrom 0 rest

/-- A single backslash at the end is doubled, so that it cannot escape what comes after the text. -/
def closeEnd (cs : List Char) : List Char :=
  match cs.reverse with
  | '\\' :: '\\' :: _ => cs
  | '\\' :: _ => cs ++ ['\\']
  | _ => cs

/-- The text as it has to be written to be shown as it is. -/
def escape (s : String) : String := String.ofList (closeEnd (escapeFrom 0 s.toList))

end PeFacts.Markup
