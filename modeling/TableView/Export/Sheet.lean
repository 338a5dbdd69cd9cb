import TableView.Export.Table

/-!
# Spreadsheets

A spreadsheet of one sheet. Its title has at most 31 characters, some of which are not allowed; a
cell holds a text of limited length without control characters, a truth value or a number. Numbers
are kept to sixteen significant digits, and a number without a fraction that fits them is an
integer.
-/

namespace TableView

open TableView.Number

/-- A title and lines of cells. -/
structure Sheet where
  title : String
  lines : List (List Value)

/-- Why a table is no spreadsheet. -/
inductive SheetFault
  | title
  | controlCharacter
  | numberTooLarge
  deriving DecidableEq

namespace Sheet

/-- The longest title. -/
def maxTitle : Nat := 31

/-- The longest text of a cell. -/
def maxText : Nat := 32767

/-- The characters that a title must not have. -/
def titleForbids : List Char := ['[', ']', ':', '*', '?', '/', '\\']

/-- Whether the character is a control character that a cell must not have. -/
def isForbidden (c : Char) : Bool :=
  c.toNat < 32 && c != '\t' && c != '\n' && c != '\r'

/-- The title for a name. -/
def titleOf (name : String) : String :=
  let kept := String.ofList (name.toList.take maxTitle)
  if kept = "" then "Table" else kept

/-- A number to sixteen significant digits. -/
def number (x : Binary64) : Value :=
  match x.roundedTo16 with
  | .finite negative significand exponent =>
    let n := Binary64.truncate negative significand exponent
    if Binary64.isWhole significand exponent && n.natAbs < Nat.pow 10 16 then .int n
    else .float (.finite negative significand exponent)
  | .infinite negative => .text (if negative then "-inf" else "inf")
  | .nan => .null

/-- A text in a cell; an empty text leaves the cell empty. -/
def textCell (s : String) : Except SheetFault Value :=
  let kept := s.toList.take maxText
  if kept.any isForbidden then .error .controlCharacter
  else if kept.isEmpty then .ok .null
  else .ok (.text (String.ofList kept))

/-- A cell. -/
def cell : Value → Except SheetFault Value
  | .null => .ok .null
  | .bool b => .ok (.bool b)
  | .int n => match Binary64.ofInt n with
    | .infinite _ => .error .numberTooLarge
    | x => .ok (number x)
  | .float x => .ok (number x)
  | .text s => textCell s
  | v => textCell v.toText

end Sheet

/-- The spreadsheet of a table under a name. Without columns it has no lines. -/
def ExportTable.sheet (t : ExportTable) (name : String) : Except SheetFault Sheet := do
  let title := Sheet.titleOf name
  if title.toList.any Sheet.titleForbids.contains then throw .title
  let header ← t.header.mapM Sheet.textCell
  let rows ← t.rows.mapM fun row => row.mapM Sheet.cell
  return ⟨title, if header.isEmpty then [] else header :: rows⟩

end TableView
