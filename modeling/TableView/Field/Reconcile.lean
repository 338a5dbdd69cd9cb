import TableView.Field.List

/-!
# Saved fields and the live schema

A saved field list is merged with the fields that the object has now: the saved fields come first,
in saved order and as they were saved, the fields that are new follow in the order of discovery
and start hidden, and saved fields that no longer exist are dropped. So a change of the schema
never adds a column to a saved table.
-/

namespace TableView.FieldList

/-- A live field as it was saved. A saved label that is missing or empty gives way to the live
one. -/
def restore (live : Field) (saved : SavedField) : Field :=
  { live with
    label := labelOr live.label saved.label
    visible := saved.visible
    sortable := saved.sortable.getD true }

/-- Saved fields merged with the live ones. Specified in `SPEC_FULL.md` 4.2. -/
def reconcile (saved : List SavedField) (live : FieldList) : FieldList :=
  let kept := (firstOfEach SavedField.name saved).filterMap fun s =>
    (live.get? s.name).map (restore · s)
  let fresh := live.toList.filter fun f => !saved.any (·.name == f.name)
  ⟨kept ++ fresh.map fun f => { f with visible := false, sortable := true }⟩

end TableView.FieldList
