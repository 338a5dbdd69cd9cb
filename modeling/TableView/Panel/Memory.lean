import TableView.Editor.Memory
import TableView.Panel.Operation

/-!
# Known query results

A world for panels in memory: objects, records and saved configurations as for editing sessions,
and the results of known queries. Any other query has the default result, if there is one.
-/

namespace TableView.Panel

/-- The outcome of a query: a result, or the text of an error. -/
abbrev QueryOutcome : Type := Except String QueryResult

/-- A world with known query results. -/
structure Memory where
  base : Editor.Memory
  results : Entries QueryOutcome
  fallback : Option QueryOutcome

namespace Memory

/-- The outcome of a query. -/
def outcome (m : Memory) (query : String) : QueryOutcome :=
  ((m.results.get? query).or m.fallback).getD (.error "no result for query")

/-- Make the outcome of a query known. -/
def setResult (m : Memory) (query : String) (outcome : QueryOutcome) : Memory :=
  { m with results := m.results.put query outcome }

/-- Answer a call. -/
def reply : machine.Outside Memory
  | m, .config name => (m.base.store.loadByName name, m)
  | m, .values object record names => (m.base.values object record names, m)
  | m, .execute query =>
    ((m.outcome query).mapError fun text => .engine (.reported .execution text), m)

end Memory

end TableView.Panel
