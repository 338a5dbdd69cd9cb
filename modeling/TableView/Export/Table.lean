import TableView.Grid

/-!
# Tables to be exported

An exported table has the labels of the columns as its header and one line for each row, in the
order of the grid; a key column that was made up for the grid is left out. A column of integers
and empty cells, or of integers and floating-point numbers, is written in floating point
throughout; integers that do not fit 64 bits keep their own form.
-/

namespace TableView

open TableView.Number

/-- The labels of the columns and the cells of the rows. -/
structure ExportTable where
  header : List String
  rows : List (List Value)

namespace ExportTable

/-- The cell of a row in a column. -/
def cell (row : Row) (column : String) : Value :=
  if column = Grid.synthesizedColumn then .float .nan
  else (Entries.get? row column).getD (.float .nan)

/-- Whether a cell can stand in a column of numbers. -/
def isNumeric : Value → Bool
  | .null | .int _ | .float _ => true
  | _ => false

/-- Whether the cell is an integer. -/
def isInteger : Value → Bool
  | .int _ => true
  | _ => false

/-- Whether the cell is a floating-point number. -/
def isFloat : Value → Bool
  | .float _ => true
  | _ => false

/-- Whether the cell is empty. -/
def isNull : Value → Bool
  | .null => true
  | _ => false

/-- The integers in some cells. -/
def integers (cells : List Value) : List Int :=
  cells.filterMap fun
    | .int n => some n
    | _ => none

/-- Whether integers fit one type of 64 bits, with a sign or without. -/
def fitWord (ns : List Int) : Bool :=
  ns.all (fun n => -9223372036854775808 ≤ n && n ≤ 9223372036854775807) ||
    ns.all (fun n => 0 ≤ n && n ≤ 18446744073709551615)

/-- Whether a column is written in floating point. The integers before the first empty cell have
to fit one type of 64 bits. -/
def isFloating (cells : List Value) : Bool :=
  cells.all isNumeric &&
    fitWord (integers (cells.takeWhile (!isNull ·))) &&
    (cells.any isFloat || (cells.any isInteger && cells.any isNull))

/-- A cell as it is exported. -/
def settle (floating : Bool) : Value → Value
  | .int n => if floating then .float (.ofInt n) else .int n
  | .float .nan => .null
  | v => v

/-- The table that a grid is exported as. -/
def ofGrid (g : Grid) : ExportTable :=
  let columns := g.columns.map fun c => (c.name, isFloating (g.rows.map (cell · c.name)))
  ⟨g.columns.map Column.label,
    g.rows.map fun row => columns.map fun c => settle c.2 (cell row c.1)⟩

end ExportTable

end TableView
