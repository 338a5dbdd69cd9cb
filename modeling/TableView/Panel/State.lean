import TableView.Grid
import TableView.Labels
import TableView.Merge.Preview
import TableView.Query
import TableView.Store.Basic
import TableView.Task.Machine

/-!
# Table panels

A panel shows the result of one query: the grid, the labels of its columns, the query that was run
and, in place of rows, an error. The generation counts the renderings, so that a rendering can
tell whether a later one has been started.
-/

namespace TableView.Panel

/-- What a panel shows. Specified in `SPEC_FULL.md` 4.8. -/
structure State where
  grid : Grid
  labels : Entries String
  query : Option String
  error : String
  loading : Bool
  generation : Nat

namespace State

/-- A panel that shows nothing. -/
def initial : State := ⟨.empty, [], none, "", false, 0⟩

/-- Whether there are rows. -/
def hasData (s : State) : Bool := !s.loading && s.error = "" && !s.grid.rows.isEmpty

/-- Whether there is an error. -/
def hasError (s : State) : Bool := !s.loading && s.error ≠ ""

/-- Whether a query was run and brought no rows. -/
def isEmpty (s : State) : Bool :=
  !s.loading && s.error = "" && s.grid.rows.isEmpty && s.query.getD "" ≠ ""

/-- The table as it is shown. -/
def rendered (s : State) : Rendered :=
  ⟨s.query, s.grid, if s.error = "" then none else some s.error⟩

/-- Show an error. -/
def showError (s : State) (message : String) : State :=
  { s with loading := false, error := message }

/-- Start a rendering: nothing is shown any more. -/
def restart (s : State) : State :=
  { initial with loading := s.loading, generation := s.generation + 1 }

/-- Change the panel if the rendering is still the latest. -/
def ifLatest (s : State) (generation : Nat) (change : State → State) : State :=
  if s.generation = generation then change s else s

end State

end TableView.Panel
