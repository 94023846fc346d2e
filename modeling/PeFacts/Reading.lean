import PeFacts.Problem

/-!
# What has been read so far

A table is read item by item. A `Reading` holds the items found and the problems met, both in the
order in which they came up.
-/

namespace PeFacts

/-- Items found and problems met. -/
structure Reading (α : Type) where
  found : Array α := #[]
  problems : Array Problem := #[]

namespace Reading

/-- The reading with one more problem. -/
def report {α : Type} (r : Reading α) (p : Problem) : Reading α :=
  { r with problems := r.problems.push p }

/-- The reading with one more item. -/
def keep {α : Type} (r : Reading α) (a : α) : Reading α := { r with found := r.found.push a }

end Reading

end PeFacts
