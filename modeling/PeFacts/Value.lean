import PeFacts.Binary64
import PeFacts.Text.Quoted

/-!
# Plain values

Facts, settings and reports are exchanged as plain values: numbers, text, lists and records whose
entries keep their order. `display` is the text of a value on its own and `inline` its text
inside a list or record. Octets are written as the list of their numbers, and text with halves of
surrogate pairs as a replacement character.
-/

namespace PeFacts

/-- A plain value. A record keeps its entries in order; a name occurs at most once. -/
inductive Value
  | null
  | bool (b : Bool)
  | int (n : Int)
  | real (x : Binary64)
  | text (s : String)
  /-- Text with halves of surrogate pairs, which are no characters. -/
  | garbled
  | octets (data : List UInt8)
  | list (items : List Value)
  | record (entries : List (String × Value))
  deriving Inhabited

namespace Value

/-- A natural number as a value. -/
def nat (n : Nat) : Value := .int n

/-- A value that may be missing. -/
def option {α : Type} (f : α → Value) : Option α → Value
  | none => .null
  | some a => f a

/-- The entry called `name` of a list of entries. -/
def lookup? (name : String) (entries : List (String × Value)) : Option Value :=
  (entries.find? fun e => e.1 == name).map (·.2)

/-- The entry called `name`, when the value is a record that has it. -/
def get? (v : Value) (name : String) : Option Value :=
  match v with
  | .record entries => lookup? name entries
  | _ => none

/-- Entries with `name` set: in place when it is there, at the end otherwise. -/
def assign (name : String) (v : Value) : List (String × Value) → List (String × Value)
  | [] => [(name, v)]
  | (n, w) :: rest => if n == name then (n, v) :: rest else (n, w) :: assign name v rest

/-- Entries with all of `changes` set, in order. -/
def assignAll (entries changes : List (String × Value)) : List (String × Value) :=
  changes.foldl (fun out e => assign e.1 e.2 out) entries

/-- The value counts as given: it is neither null, false, zero nor empty. -/
def isGiven : Value → Bool
  | .null => false
  | .bool b => b
  | .int n => n != 0
  | .real (.finite _ m _) => m != 0
  | .real _ => true
  | .text s => !s.isEmpty
  | .garbled => true
  | .octets data => !data.isEmpty
  | .list items => !items.isEmpty
  | .record entries => !entries.isEmpty

mutual

/-- The text of a value inside a list or a record: text is quoted. -/
def inline : Value → String
  | .null => "None"
  | .bool b => if b then "True" else "False"
  | .int n => toString n
  | .real x => x.text "inf" "nan"
  | .text s => Text.quoted s
  | .garbled => Text.quoted "\uFFFD"
  | .octets data => "[" ++ ", ".intercalate (data.map fun b => toString b.toNat) ++ "]"
  | .list items => "[" ++ ", ".intercalate (inlineItems items) ++ "]"
  | .record entries => "\x7b" ++ ", ".intercalate (inlineEntries entries) ++ "\x7d"

/-- The texts of list items. -/
def inlineItems : List Value → List String
  | [] => []
  | v :: rest => inline v :: inlineItems rest

/-- The texts of record entries. -/
def inlineEntries : List (String × Value) → List String
  | [] => []
  | (name, v) :: rest => (Text.quoted name ++ ": " ++ inline v) :: inlineEntries rest

end

/-- The text of a value on its own: text is written as it is. -/
def display : Value → String
  | .text s => s
  | v => inline v

end Value

end PeFacts
