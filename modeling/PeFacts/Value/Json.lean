import PeFacts.Value

/-!
# JSON text

Values as JSON over several lines, two spaces for each level. Entries keep their order, empty lists
and records stay on one line, and only quotes, backslashes and control characters are escaped.
-/

namespace PeFacts.Value

/-- One character of a JSON string. -/
def jsonChar (c : Char) : String :=
  if c = '"' then "\\\""
  else if c = '\\' then "\\\\"
  else if c = '\n' then "\\n"
  else if c = '\r' then "\\r"
  else if c = '\t' then "\\t"
  else if c = '\x08' then "\\b"
  else if c = '\x0c' then "\\f"
  else if c.toNat < 32 then "\\u" ++ Text.paddedHex 4 c.toNat
  else String.singleton c

/-- A JSON string. -/
def jsonString (s : String) : String := "\"" ++ String.join (s.toList.map jsonChar) ++ "\""

/-- A new line at `level`. -/
def jsonBreak (level : Nat) : String := "\n" ++ String.ofList (List.replicate (2 * level) ' ')

/-- Parts on lines of their own between two brackets, or the brackets alone. -/
def jsonBlock (left right : String) (level : Nat) (parts : List String) : String :=
  if parts.isEmpty then left ++ right
  else
    left ++ jsonBreak (level + 1) ++ ("," ++ jsonBreak (level + 1)).intercalate parts ++
      jsonBreak level ++ right

mutual

/-- The JSON text of a value that stands at `level`. -/
def jsonAt (level : Nat) : Value → String
  | .null => "null"
  | .bool b => if b then "true" else "false"
  | .int n => toString n
  | .real x => x.text "Infinity" "NaN"
  | .text s => jsonString s
  | .garbled => jsonString "\uFFFD"
  | .octets data => jsonBlock "[" "]" level (data.map fun b => toString b.toNat)
  | .list items => jsonBlock "[" "]" level (jsonItems (level + 1) items)
  | .record entries => jsonBlock "\x7b" "\x7d" level (jsonEntries (level + 1) entries)

/-- The JSON texts of list items. -/
def jsonItems (level : Nat) : List Value → List String
  | [] => []
  | v :: rest => jsonAt level v :: jsonItems level rest

/-- The JSON texts of record entries. -/
def jsonEntries (level : Nat) : List (String × Value) → List String
  | [] => []
  | (name, v) :: rest => (jsonString name ++ ": " ++ jsonAt level v) :: jsonEntries level rest

end

/-- The JSON text of a value. -/
def toJson (v : Value) : String := jsonAt 0 v

end PeFacts.Value
