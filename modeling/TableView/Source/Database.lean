import TableView.Grid
import TableView.Number.Reader

/-!
# Tables of a data source

A table has typed columns, key columns and rows of stored values; a view shows columns of a table
and has no key. The type of a column decides how a value is stored, how it is compared with a
literal, and as what a record lookup answers it.
-/

namespace TableView.Source

open TableView.Number

/-- The type of a column. -/
inductive ColumnType
  | integer
  | text
  | boolean
  | numeric
  | date
  | real
  deriving DecidableEq

namespace ColumnType

/-- The type with the given name. -/
def named (s : String) : ColumnType :=
  if s = "INTEGER" then integer
  else if s = "BOOLEAN" then boolean
  else if s = "NUMERIC" then numeric
  else if s = "DATE" then date
  else if s = "REAL" then real
  else text

/-- The number that a text writes, blanks around it allowed. -/
def numberOfText? (s : String) : Option Value :=
  let cs := (s.toList.dropWhile (· == ' ')).reverse.dropWhile (· == ' ') |>.reverse
  match Scientific.read? cs with
  | none => none
  | some n =>
    if n.exponent = 0 then
      some (.int (if n.negative then -(n.digits : Int) else n.digits))
    else some (.float (.ofScientific n.negative n.digits n.exponent))

/-- A whole floating-point number as an integer, any other value as it is. -/
def wholeAsInt : Value → Value
  | .float (.finite negative significand exponent) =>
    if Binary64.isWhole significand exponent then
      .int (Binary64.truncate negative significand exponent)
    else .float (.finite negative significand exponent)
  | v => v

/-- The value that a column of the type keeps for a value. -/
def store (type : ColumnType) (v : Value) : Value :=
  let v : Value := match v with
    | .bool b => .int (if b then 1 else 0)
    | other => other
  match type, v with
  | text, .int n => .text (toString n)
  | text, .float x => .text x.text
  | text, other => other
  | real, .int n => .float (.ofInt n)
  | real, .text s => match numberOfText? s with
    | some (.int n) => .float (.ofInt n)
    | some other => other
    | none => .text s
  | real, other => other
  | _, .text s => ((numberOfText? s).map wholeAsInt).getD (.text s)
  | _, other => wholeAsInt other

/-- The decimal places of a number that a lookup answers. -/
def decimalPlaces : Nat := 10

/-- A stored value as a record lookup answers it. -/
def typed : ColumnType → Value → Value
  | boolean, .int n => .bool (n != 0)
  | numeric, .int n => .decimal (.ofInt decimalPlaces n)
  | numeric, .float x => .decimal (.ofBinary decimalPlaces x)
  | date, .text s => ((Date.read? s).map Value.date).getD (.text s)
  | _, v => v

/-- The exact value of a number. -/
def rational? : Value → Option Rat
  | .int n => some n
  | .float (.finite negative significand exponent) =>
    some (Binary64.toRat negative significand exponent)
  | _ => none

/-- Whether a stored value equals a literal that is compared with its column. Null equals
nothing. -/
def equals (type : ColumnType) (stored literal : Value) : Bool :=
  match stored, type.store literal with
  | .text s, .text t => s == t
  | a, b => match rational? a, rational? b with
    | some x, some y => x == y
    | _, _ => false

end ColumnType

/-- A table or a view. -/
structure Table where
  name : String
  columns : List (String × ColumnType)
  key : List String
  rows : List (List Value)

namespace Table

/-- A table of given rows, stored as its columns keep them. -/
def ofRows (name : String) (columns : List (String × ColumnType)) (key : List String)
    (rows : List (List Value)) : Table :=
  ⟨name, columns, key, rows.map fun row =>
    (columns.zip row).map fun cell => cell.1.2.store cell.2⟩

/-- The names of the columns. -/
def columnNames (t : Table) : List String := t.columns.map (·.1)

/-- The position of a column by its exact name. -/
def position? (t : Table) (column : String) : Option Nat :=
  t.columns.findIdx? (·.1 == column)

/-- The cell of a row at a position. -/
def cell (row : List Value) (position : Nat) : Value :=
  (row[position]?).getD .null

/-- A view of some columns. -/
def view (t : Table) (name : String) (columns : List String) : Table :=
  let positions := columns.filterMap t.position?
  ⟨name, positions.filterMap (t.columns[·]?), [], t.rows.map fun row =>
    positions.map (cell row)⟩

end Table

/-- The outcome that a query is known to have. -/
inductive Outcome
  | rows (keys : List String) (rows : List (List Value))
  | error (text : String)

/-- A data source: its tables and views, queries with a known outcome, objects whose columns are
not reported, and objects whose records cannot be read. -/
structure Database where
  tables : List Table
  known : Entries Outcome
  withoutColumns : List String
  recordErrors : Entries String

namespace Database

/-- The table of a name. -/
def table? (db : Database) (name : String) : Option Table :=
  db.tables.find? (·.name == name)

/-- The columns that are reported of a table. -/
def columnsOf (db : Database) (t : Table) : List (String × ColumnType) :=
  if db.withoutColumns.contains t.name then [] else t.columns

/-- The names of tables and views, in order. -/
def objectNames (db : Database) : List String :=
  (db.tables.map Table.name).mergeSort (· ≤ ·)

end Database

end TableView.Source
