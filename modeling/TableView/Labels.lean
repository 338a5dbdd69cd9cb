import TableView.Field.List
import TableView.Text.Blank

/-!
# Column labels

The labels of the visible fields travel beside a query as one text: pairs of a name and a label
with an arrow between them, separated by commas. Reading drops what is no pair, trims both parts
and takes the last of two labels for one name.
-/

namespace TableView.Labels

/-- The labels of the visible fields, in order. Specified in `SPEC_FULL.md` 4.3. -/
def ofFields (fields : FieldList) : Entries String :=
  Entries.ofList (fields.visible.map fun f => (f.name, f.label))

/-- What stands between a name and its label. -/
def arrow : List Char := ['=', '>']

/-- The text of labels. Specified in `SPEC_FULL.md` 4.3. -/
def encode (labels : Entries String) : String :=
  String.intercalate "," (labels.map fun e => e.1 ++ String.ofList arrow ++ e.2)

/-- The parts of a text before and after its first arrow. -/
def splitArrow : List Char → Option (List Char × List Char)
  | [] => none
  | c :: rest =>
    if arrow.isPrefixOf (c :: rest) then some ([], rest.drop 1)
    else (splitArrow rest).map fun p => (c :: p.1, p.2)

/-- The pairs of a text of labels, trimmed. -/
def pairs (cs : List Char) : List (String × String) :=
  (cs.splitOn ',').filterMap fun pair => (splitArrow pair).map fun p =>
    (String.ofList (Text.trimBy Text.isBlank p.1), String.ofList (Text.trimBy Text.isBlank p.2))

/-- Read a text of labels. Specified in `SPEC_FULL.md` 4.3. -/
def decode (s : String) : Entries String :=
  Entries.ofList (pairs s.toList)

end TableView.Labels
