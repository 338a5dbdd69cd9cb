import TableView.Field.List
import TableView.RowLimit

/-!
# Queries

The query of a configured table names the visible fields in order, the object, the filter as it is
and the row limit. There is no query without an object or without a visible field.
-/

namespace TableView.Query

/-- Whether there is anything to ask for. -/
def isPossible (object : String) (fields : FieldList) : Bool :=
  object ≠ "" && fields.anyVisible

/-- The query of an object that has visible fields. -/
def text (object : String) (fields : FieldList) (filter : String) (limit : Nat) : String :=
  "SELECT " ++ String.intercalate ", " (fields.visible.map Field.name) ++ " FROM " ++ object ++
    " " ++ filter ++ " LIMIT " ++ toString limit

/-- The query of a table, or the empty text if there is none. Specified in `SPEC_FULL.md` 4.3. -/
def compile (object : String) (fields : FieldList) (filter : String) (limit : Nat) : String :=
  if isPossible object fields then text object fields filter limit else ""

/-- The query of a table whose row limit may be any value. A limit of more digits than an integer in
text may have cannot be written. -/
def compileWith (object : String) (fields : FieldList) (filter : String) (limit : Value) :
    Except Failure String :=
  if isPossible object fields then
    match RowLimit.ofValue limit with
    | .ok n =>
      if Number.maxIntegerDigits < Number.digitCount n then
        .error (.badValue Number.tooManyDigits)
      else .ok (text object fields filter n)
    | .rejected faults => .error (.schema faults)
    | .overflow message => .error (.overflow message)
  else .ok ""

end TableView.Query
