import TableView.Choice
import TableView.Schema.Reader

/-!
# Grids

A grid holds the columns and the rows of one fetched result and sorts the rows it has. A row is an
ordered map from column names to cells. Rows are told apart by the column `Id`; a result without
one gets a key column of its own, numbered in the order of the result.
-/

namespace TableView

/-- A column of a result. -/
structure Column where
  name : String
  label : String
  sortable : Bool
  deriving DecidableEq

namespace Column

/-- Read a column. -/
def ofValue : Value → Schema.Check Column :=
  Schema.object .modelType fun m =>
    Column.mk <$> Schema.required m "fieldName" "field_name" Schema.string
      <*> Schema.required m "label" "label" Schema.string
      <*> Schema.withDefault m "sortable" "sortable" true Schema.boolean

/-- The document of a column. -/
def toValue (c : Column) : Value :=
  .object [("fieldName", .text c.name), ("label", .text c.label), ("sortable", .bool c.sortable)]

end Column

/-- A row: the cells by column name. -/
abbrev Row := Entries Value

/-- The result of a query. -/
structure QueryResult where
  columns : List Column
  rows : List Row

/-- The place of a cell in the order of sorting: empty cells, then numbers by their exact value,
then everything else by its text. -/
inductive SortKey
  | blank
  | lowest
  | number (x : Rat)
  | highest
  | text (s : String)

namespace SortKey

/-- The sort key of a cell. -/
def ofValue : Value → SortKey
  | .null => blank
  | .text s => if s = "" then blank else text s
  | .int n => number n
  | .float (.finite negative significand exponent) =>
    number (Number.Binary64.toRat negative significand exponent)
  | .float (.infinite negative) => if negative then lowest else highest
  | .float .nan => highest
  | .decimal (.finite negative coefficient exponent) =>
    number (Number.Decimal.toRat negative coefficient exponent)
  | .decimal (.infinite negative) => if negative then lowest else highest
  | .decimal .nan => highest
  | other => text other.toText

/-- The kind of a key, from first to last. -/
def rank : SortKey → Nat
  | blank => 0
  | lowest => 1
  | number _ => 2
  | highest => 3
  | text _ => 4

/-- Whether a key does not come after another one. -/
def le : SortKey → SortKey → Bool
  | number x, number y => x ≤ y
  | text s, text t => s ≤ t
  | a, b => a.rank ≤ b.rank

end SortKey

/-- The columns and rows of a table, and how they were last sorted. -/
structure Grid where
  columns : List Column
  rows : List Row
  keyColumn : String
  synthesized : Bool
  sortedBy : Option String
  direction : Direction

namespace Grid

/-- The column that identifies a row. -/
def idColumn : String := "Id"

/-- The key column of rows that bring none. -/
def synthesizedColumn : String := "_rowKey"

/-- The key of the row at a position. -/
def synthesizedKey (position : Nat) : Value := .text ("row-" ++ toString position)

/-- No columns and no rows. -/
def empty : Grid := ⟨[], [], idColumn, false, none, .ascending⟩

/-- The label of a column, which an override that is not empty replaces. -/
def labelOf (overrides : Entries String) (c : Column) : String :=
  match overrides.get? c.name with
  | some label => if label = "" then c.label else label
  | none => c.label

/-- Give the rows from a position on their keys. -/
def numberRows : Nat → List Row → List Row
  | _, [] => []
  | position, row :: rest =>
    Entries.put row synthesizedColumn (synthesizedKey position) :: numberRows (position + 1) rest

/-- The grid of a result, with labels that replace those of the result. Specified in `SPEC_FULL.md`
4.6. -/
def load (result : QueryResult) (overrides : Entries String) : Grid :=
  let columns := result.columns.map fun c => ⟨c.name, labelOf overrides c, true⟩
  if result.columns.any (·.name == idColumn) then
    ⟨columns, result.rows, idColumn, false, none, .ascending⟩
  else ⟨columns, numberRows 0 result.rows, synthesizedColumn, true, none, .ascending⟩

/-- The sort key of a row in a column; a missing cell is empty. -/
def keyIn (column : String) (row : Row) : SortKey :=
  SortKey.ofValue ((Entries.get? row column).getD .null)

/-- Whether a row does not come after another one, sorted by a column. -/
def rowLe (column : String) (direction : Direction) (a b : Row) : Bool :=
  match direction with
  | .ascending => (keyIn column a).le (keyIn column b)
  | .descending => (keyIn column b).le (keyIn column a)

/-- Sort the rows by a column. Rows with equal keys keep their order in both directions. Specified
in `SPEC_FULL.md` 4.6. -/
def sort (g : Grid) (column : String) (direction : Direction) : Grid :=
  { g with
    rows := g.rows.mergeSort (rowLe column direction)
    sortedBy := some column
    direction := direction }

/-- The keys of the rows, in order. -/
def rowKeys (g : Grid) : List Value :=
  g.rows.map fun row => (Entries.get? row g.keyColumn).getD .null

/-- How many records there are, in words. Specified in `SPEC_FULL.md` 4.6. -/
def countLabel (count : Nat) : String :=
  toString count ++ (if count = 1 then " record" else " records")

end Grid

/-- What a viewer shows: the grid, the query it came from, and an error. -/
structure Rendered where
  query : Option String
  grid : Grid
  error : Option String

namespace Rendered

/-- The words for the number of records shown. -/
def recordCount (r : Rendered) : String :=
  Grid.countLabel r.grid.rows.length

/-- The document of what is shown. -/
def toValue (r : Rendered) : Value :=
  .object [("query", .ofText? r.query), ("columns", .list (r.grid.columns.map Column.toValue)),
    ("rows", .list (r.grid.rows.map Value.object)), ("key_field", .text r.grid.keyColumn),
    ("synthesized_keys", .bool r.grid.synthesized), ("sorted_by", .ofText? r.grid.sortedBy),
    ("sorted_direction", .text r.grid.direction.name),
    ("record_count_label", .text r.recordCount), ("error_message", .ofText? r.error)]

end Rendered

end TableView
