import TableView.Export.Table

/-!
# Comma-separated text

A line for the header and one for each row, each ended by a line feed. A field is quoted only
where it holds a comma, a quote or a line feed, and a quote in it is written twice. An empty field
that is alone on its line is quoted, so that the line is not empty.
-/

namespace TableView

namespace Separated

/-- Whether a field with the character has to be quoted. -/
def needsQuotes (c : Char) : Bool :=
  c == ',' || c == '"' || c == '\n'

/-- The characters of a quoted field. -/
def doubled : List Char → List Char
  | [] => []
  | c :: rest => if c = '"' then '"' :: '"' :: doubled rest else c :: doubled rest

/-- A field as it is written. -/
def field (cs : List Char) : List Char :=
  if cs.any needsQuotes then '"' :: doubled cs ++ ['"'] else cs

/-- The fields of a line with commas between them. -/
def joined : List (List Char) → List Char
  | [] => []
  | [f] => field f
  | f :: rest => field f ++ ',' :: joined rest

/-- A line and its line feed. -/
def line (fields : List (List Char)) : List Char :=
  (if fields = [[]] then ['"', '"'] else joined fields) ++ ['\n']

/-- The text of an exported cell. -/
def cellText : Value → String
  | .null => ""
  | v => v.toText

end Separated

/-- The comma-separated text of a table. -/
def ExportTable.separated (t : ExportTable) : String :=
  String.ofList (Separated.line (t.header.map String.toList) ++
    t.rows.flatMap fun row => Separated.line (row.map fun v => (Separated.cellText v).toList))

end TableView
