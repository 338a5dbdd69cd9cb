import TableView.Merge.Resolution

/-!
# Previews

The preview of a compiled query is the query that may be shown and run: its merge tokens filled in
one after another, then the ids of the viewer and of the record, as far as they are known. While
the tokens have no values the preview is empty.
-/

namespace TableView

/-- The literal of a value in a query. Texts stand in single quotes as they are; a quote inside is
not escaped. The digits of an integer are written out, however many there are; it is taken not to
have more than `Number.maxIntegerDigits`. Specified in `SPEC_FULL.md` 4.5. -/
def Value.queryLiteral : Value → String
  | .null => "NULL"
  | .bool b => if b then "true" else "false"
  | .int n => (Value.int n).toText
  | .float x => x.text
  | .decimal d => d.text
  | other => "'" ++ other.toText ++ "'"

namespace Merge

/-- The placeholder of the id of the viewer. -/
def viewerPlaceholder : String := "$CurrentUserId"

/-- The placeholder of the id of the record. -/
def recordPlaceholder : String := "$recordId"

/-- Fill a placeholder with a quoted id, if the id is known. -/
def fillId (query placeholder : String) : Option String → String
  | some id => fill query placeholder ("'" ++ id ++ "'")
  | none => query

/-- Fill in the ids of the viewer and of the record. -/
def fillIds (query : String) (viewer record : Option String) : String :=
  fillId (fillId query viewerPlaceholder viewer) recordPlaceholder record

/-- Fill in merge tokens one after another; one without a value stands for null. -/
def fillTokens (query : String) (tokens : List String) (values : Entries Value) : String :=
  tokens.foldl (fun q name => fill q (tokenText name) ((values.get? name).getD .null).queryLiteral)
    query

/-- The preview of a compiled query; empty while its tokens are unresolved. Specified in
`SPEC_FULL.md` 4.5. -/
def preview (query : String) (tokens : List String) (state : Readiness) (values : Entries Value)
    (viewer record : Option String) : String :=
  match state with
  | .noTokens => fillIds query viewer record
  | .resolved => fillIds (fillTokens query tokens values) viewer record
  | _ => ""

end Merge

end TableView
