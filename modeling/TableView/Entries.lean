/-!
# Ordered maps

An ordered map is the list of its entries. Assigning to a key that is present replaces its value
and keeps its place; a new key goes to the end. A map built by assignments has every key once.
-/

namespace TableView

/-- The entries of an ordered map, first key first. -/
abbrev Entries (α : Type) := List (String × α)

namespace Entries

variable {α : Type}

/-- The value of a key. -/
def get? (m : Entries α) (key : String) : Option α :=
  List.lookup key m

/-- Whether the key is present. -/
def has (m : Entries α) (key : String) : Bool :=
  m.any (·.1 == key)

/-- Assign a value to a key. -/
def put : Entries α → String → α → Entries α
  | [], key, value => [(key, value)]
  | e :: rest, key, value => if e.1 = key then (key, value) :: rest else e :: put rest key value

/-- Assign several values, one after another. -/
def putAll (m : Entries α) (more : List (String × α)) : Entries α :=
  more.foldl (fun m e => m.put e.1 e.2) m

/-- The map that a list of assignments builds. -/
def ofList (pairs : List (String × α)) : Entries α :=
  putAll [] pairs

/-- The keys, in order. -/
def keys (m : Entries α) : List String :=
  m.map (·.1)

end Entries

end TableView
