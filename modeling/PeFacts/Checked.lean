import PeFacts.Value

/-!
# Checked values

Settings and reports are read from plain values. A `Checked` reading gives its result or everything
that is wrong: each `Issue` names the place of the offending value, and the issues of two parts are
listed one after the other. `Checked.entry` reads one entry of a record.
-/

namespace PeFacts

/-- One step from a value to a part of it. -/
inductive PathStep
  | entry (name : String)
  | item (index : Nat)
  deriving Repr, DecidableEq

/-- What is wrong with a value. -/
inductive Complaint
  /-- A required entry is not there. -/
  | missing
  | notText
  /-- A text holds halves of surrogate pairs, or octets are not UTF-8. -/
  | unreadableText
  | notInteger
  /-- A number with a fraction stands for an integer. -/
  | fraction
  /-- An infinity or no number stands for an integer. -/
  | notFinite
  /-- A text does not read as an integer. -/
  | unreadableInteger
  /-- A text or a number is too large to be read as an integer. -/
  | oversizedInteger
  | notTruth
  /-- A text or an integer does not read as a truth value. -/
  | unreadableTruth
  | notRecord
  | notList
  /-- A record of this kind was expected. -/
  | notModel (name : String)
  deriving Repr, DecidableEq

namespace Complaint

/-- The stable code of a complaint. -/
def code : Complaint → String
  | missing => "missing"
  | notText => "string_type"
  | unreadableText => "string_unicode"
  | notInteger => "int_type"
  | fraction => "int_from_float"
  | notFinite => "finite_number"
  | unreadableInteger => "int_parsing"
  | oversizedInteger => "int_parsing_size"
  | notTruth => "bool_type"
  | unreadableTruth => "bool_parsing"
  | notRecord => "dict_type"
  | notList => "list_type"
  | notModel _ => "model_type"

/-- The wording of a complaint. -/
def message : Complaint → String
  | missing => "Field required"
  | notText => "Input should be a valid string"
  | unreadableText =>
    "Input should be a valid string, unable to parse raw data as a unicode string"
  | notInteger => "Input should be a valid integer"
  | fraction => "Input should be a valid integer, got a number with a fractional part"
  | notFinite => "Input should be a finite number"
  | unreadableInteger => "Input should be a valid integer, unable to parse string as an integer"
  | oversizedInteger => "Unable to parse input string as an integer, exceeded maximum size"
  | notTruth => "Input should be a valid boolean"
  | unreadableTruth => "Input should be a valid boolean, unable to interpret input"
  | notRecord => "Input should be a valid dictionary"
  | notList => "Input should be a valid list"
  | notModel name => "Input should be a valid dictionary or instance of " ++ name

end Complaint

/-- A complaint about the value at a place. -/
structure Issue where
  path : List PathStep
  complaint : Complaint
  deriving Repr, DecidableEq

/-- The result of a reading, or everything that is wrong. -/
inductive Checked (α : Type)
  | ok (a : α)
  | failed (issues : List Issue)
  deriving Repr

namespace Checked

instance : Applicative Checked where
  pure := ok
  seq f x :=
    match f, x () with
    | ok f, ok a => ok (f a)
    | ok _, failed issues => failed issues
    | failed issues, ok _ => failed issues
    | failed issues, failed more => failed (issues ++ more)

/-- A reading that fails at the value itself. -/
def complain {α : Type} (c : Complaint) : Checked α := failed [⟨[], c⟩]

/-- A reading of the part that `step` leads to. -/
def within {α : Type} (step : PathStep) : Checked α → Checked α
  | ok a => ok a
  | failed issues => failed (issues.map fun i => { i with path := step :: i.path })

/-- The entry called `name`; when it is not there, `default?` stands for it. -/
def entry {α : Type} (entries : List (String × Value)) (name : String) (read : Value → Checked α)
    (default? : Option α := none) : Checked α :=
  within (.entry name)
    (match Value.lookup? name entries, default? with
    | some v, _ => read v
    | none, some a => ok a
    | none, none => complain .missing)

/-- The entries of a record of the kind `name`. -/
def model {α : Type} (name : String) (read : List (String × Value) → Checked α) :
    Value → Checked α
  | .record entries => read entries
  | _ => complain (.notModel name)

/-- The entries of any record. -/
def record : Value → Checked (List (String × Value))
  | .record entries => ok entries
  | _ => complain .notRecord

/-- The items from number `index` on. -/
def itemsFrom {α : Type} (read : Value → Checked α) (index : Nat) : List Value → Checked (List α)
  | [] => ok []
  | v :: rest => List.cons <$> within (.item index) (read v) <*> itemsFrom read (index + 1) rest

/-- The items of a list. -/
def list {α : Type} (read : Value → Checked α) : Value → Checked (List α)
  | .list items => itemsFrom read 0 items
  | _ => complain .notList

end Checked

end PeFacts
