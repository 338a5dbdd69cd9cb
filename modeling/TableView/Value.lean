import TableView.Date
import TableView.Entries
import TableView.Number.FloatText
import TableView.Text.Quoted

/-!
# Values

The values that cells of a table, JSON documents and loosely typed inputs hold. Every value has a
truth (`isTruthy`), a text, and a literal that messages show.
-/

namespace TableView

open TableView.Number

/-- A value of any kind. -/
inductive Value
  | null
  | bool (b : Bool)
  | int (n : Int)
  | float (x : Binary64)
  | decimal (d : Decimal)
  | date (d : Date)
  | bytes (content : List UInt8)
  | text (s : String)
  | list (items : List Value)
  | object (entries : List (String × Value))
  deriving BEq

namespace Value

instance : Inhabited Value := ⟨null⟩

/-- Whether a value counts as true: null, false, zero and everything empty do not. -/
def isTruthy : Value → Bool
  | null => false
  | bool b => b
  | int n => n != 0
  | float x => x.isNonzero
  | decimal d => d.isNonzero
  | date _ => true
  | bytes content => !content.isEmpty
  | text s => !s.isEmpty
  | list items => !items.isEmpty
  | object entries => !entries.isEmpty

mutual

/-- The literal that denotes a value in a message. -/
def literal : Value → String
  | null => "None"
  | bool b => if b then "True" else "False"
  | int n => toString n
  | float x => x.text
  | decimal d => "Decimal('" ++ d.text ++ "')"
  | date d => "datetime.date(" ++ toString d.year ++ ", " ++ toString d.month ++ ", " ++
      toString d.day ++ ")"
  | bytes content => Text.quotedBytes content
  | text s => Text.quoted s
  | list items => "[" ++ String.intercalate ", " (literals items) ++ "]"
  | object entries =>
    "\x7b" ++ String.intercalate ", " (entryLiterals entries) ++ "\x7d"

/-- The literals of the items of a list. -/
def literals : List Value → List String
  | [] => []
  | v :: rest => literal v :: literals rest

/-- The literals of the entries of an object. -/
def entryLiterals : List (String × Value) → List String
  | [] => []
  | (key, v) :: rest => (Text.quoted key ++ ": " ++ literal v) :: entryLiterals rest

end

/-- The text of a value: a text is itself, numbers and dates are written plainly, and anything
else is its literal. -/
def toText : Value → String
  | text s => s
  | decimal d => d.text
  | date d => d.text
  | other => other.literal

/-- A text or null. -/
def ofText? : Option String → Value
  | some s => text s
  | none => null

end Value

end TableView
