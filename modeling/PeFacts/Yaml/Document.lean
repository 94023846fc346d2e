import PeFacts.Yaml.Part

/-!
# YAML documents as plain values

`Yaml.read` gives the value of the one document in a text. A mapping becomes a record: of two entries
with one key the last counts, and entries whose key is not text are left out, since a record cannot
be asked for them. A point in time becomes the list of its numbers, a set the list of its members,
and pairs the list of their values.
-/

namespace PeFacts.Yaml

/-- The value of a document without what lies deeper than `depth`. Without a root there is nothing. -/
def Document.value (d : Document) (depth : Nat) : Except Fault Value := do
  match d.root? with
  | none => return .null
  | some root => return (← d.nodes.parts root).value depth root

/-- The character may stand in a text. -/
def isAllowed (c : Char) : Bool :=
  let n := c.toNat
  n = 9 || n = 10 || n = 13 || (0x20 ≤ n && n ≤ 0x7E) || n = 0x85 || (0xA0 ≤ n && n ≤ 0xD7FF) ||
    (0xE000 ≤ n && n ≤ 0xFFFD) || 0x10000 ≤ n

/-- Text in which every carriage return, with the line feed after it if there is one, is a line feed. -/
def unifyBreaks : List Char → List Char
  | [] => []
  | '\r' :: '\n' :: rest => '\n' :: unifyBreaks rest
  | '\r' :: rest => '\n' :: unifyBreaks rest
  | c :: rest => c :: unifyBreaks rest

/-- The value of the document in a text, as deep as `depth`: a document may refer to itself. -/
def read (depth : Nat) (text : String) : Except Fault Value :=
  if text.toList.all isAllowed then do
    let document ← Document.ofText (unifyBreaks text.toList)
    document.value depth
  else .error .malformed

end PeFacts.Yaml
