import PeFacts.Text.Lower.Ranges

/-!
# Lower case

`lowerText` maps a text to lower case as a whole: each letter by its own mapping, a capital dotted
I to two characters, and a capital sigma to its final form where it ends a word.
-/

namespace PeFacts

namespace Text

/-- The lower case of one letter, the same character when it has none. -/
def lowerChar (c : Char) : Char :=
  if c.toNat < 128 then c.toLower
  else
    match lowerRuns.find? (·.covers c.toNat) with
    | some run => Char.ofNat ((c.toNat : Int) + run.shift).toNat
    | none => c

/-- The letter has case and is not skipped when a word is looked at. -/
def isCased (c : Char) : Bool := inRanges casedRanges c.toNat

/-- The character is skipped when a word is looked at. -/
def isCaseIgnorable (c : Char) : Bool := inRanges caseIgnorableRanges c.toNat

/-- The first character that is not skipped is a cased letter. -/
def startsCased (cs : List Char) : Bool :=
  match cs.dropWhile isCaseIgnorable with
  | [] => false
  | c :: _ => isCased c

/-- Lower case, where `before` holds what precedes, last character first. -/
def lowerFrom (before : List Char) : List Char → List Char
  | [] => []
  | c :: rest =>
    let mapped :=
      if c = 'Σ' then
        if startsCased before && !startsCased rest then ['ς'] else ['σ']
      else if c = 'İ' then ['i', '\u0307']
      else [lowerChar c]
    mapped ++ lowerFrom (c :: before) rest

end Text

/-- The text in lower case. -/
def lowerText (s : String) : String := String.ofList (Text.lowerFrom [] s.toList)

end PeFacts
