/-!
Tables that keep the order in which their keys were first written. Every operation treats all pairs
of a key alike, so its law needs no assumption that keys occur once.
-/
namespace Gamebook

/-- Pairs of a key and its entry. -/
abbrev Assoc (κ α : Type) := List (κ × α)

abbrev Table (α : Type) := Assoc String α

namespace Assoc
variable {κ α : Type}

def keys (table : Assoc κ α) : List κ := table.map (·.1)

variable [BEq κ]

def get? (table : Assoc κ α) (key : κ) : Option α := (table.find? (·.1 == key)).map (·.2)

def contains (table : Assoc κ α) (key : κ) : Bool := table.any (·.1 == key)

/-- A key that is present keeps its place; a new key comes last. -/
def insert (table : Assoc κ α) (key : κ) (entry : α) : Assoc κ α :=
  if table.contains key then table.map fun pair => if pair.1 == key then (pair.1, entry) else pair
  else table ++ [(key, entry)]

def erase (table : Assoc κ α) (key : κ) : Assoc κ α := table.filter fun pair => !(pair.1 == key)

def update (table other : Assoc κ α) : Assoc κ α :=
  other.foldl (fun table pair => table.insert pair.1 pair.2) table

def ofPairs (pairs : List (κ × α)) : Assoc κ α := update [] pairs

end Assoc

def Table.names {α : Type} (table : Table α) : List String := table.keys

end Gamebook
