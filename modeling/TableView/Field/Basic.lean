import TableView.Choice
import TableView.Schema.Reader

/-!
# Fields

A field is a column of a configured table: its name identifies it, its label, visibility and
sortable flag may be edited. A discovered field is what a data source reports of it, a saved field
is the form in a stored configuration, where the label and the sortable flag may be missing.
-/

namespace TableView

/-- A field as a data source reports it. -/
structure DiscoveredField where
  name : String
  label : String
  deriving DecidableEq

/-- A configured field. -/
structure Field where
  name : String
  label : String
  visible : Bool
  sortable : Bool
  deriving DecidableEq

/-- A field as stored in a configuration. -/
structure SavedField where
  name : String
  label : Option String
  visible : Bool
  sortable : Option Bool
  deriving DecidableEq

/-- The text, or another one in place of a missing or an empty text. -/
def labelOr (fallback : String) : Option String → String
  | some s => if s = "" then fallback else s
  | none => fallback

/-- Keep the first of the items with the same key. -/
def firstOfEach {α : Type} (key : α → String) : List α → List α
  | [] => []
  | a :: rest => a :: (firstOfEach key rest).filter (key · != key a)

namespace DiscoveredField

/-- Read a discovered field. -/
def ofValue : Value → Schema.Check DiscoveredField :=
  Schema.object .modelType fun m =>
    DiscoveredField.mk <$> Schema.required m "fieldName" "field_name" Schema.string
      <*> Schema.required m "label" "label" Schema.string

/-- A discovered field starts visible and sortable. -/
def toField (d : DiscoveredField) : Field :=
  ⟨d.name, d.label, true, true⟩

/-- The document of a discovered field. -/
def toValue (d : DiscoveredField) : Value :=
  .object [("fieldName", .text d.name), ("label", .text d.label)]

end DiscoveredField

namespace Field

/-- Read a configured field. -/
def ofValue : Value → Schema.Check Field :=
  Schema.object .modelType fun m =>
    Field.mk <$> Schema.required m "fieldName" "field_name" Schema.string
      <*> Schema.required m "label" "label" Schema.string
      <*> Schema.withDefault m "visible" "visible" true Schema.boolean
      <*> Schema.withDefault m "sortable" "sortable" true Schema.boolean

/-- The document of a field. -/
def toValue (f : Field) : Value :=
  .object [("fieldName", .text f.name), ("label", .text f.label), ("visible", .bool f.visible),
    ("sortable", .bool f.sortable)]

/-- The stored form of a field. -/
def toSaved (f : Field) : SavedField :=
  ⟨f.name, some f.label, f.visible, some f.sortable⟩

end Field

namespace SavedField

/-- Read a saved field; `kind` is the fault of what is not an object. -/
def ofValue (kind : Schema.FaultKind) : Value → Schema.Check SavedField :=
  Schema.object kind fun m =>
    SavedField.mk <$> Schema.required m "fieldName" "field_name" Schema.string
      <*> Schema.withDefault m "label" "label" none (Schema.optional Schema.string)
      <*> Schema.withDefault m "visible" "visible" true Schema.boolean
      <*> Schema.withDefault m "sortable" "sortable" none (Schema.optional Schema.boolean)

/-- The document of a saved field. -/
def toValue (s : SavedField) : Value :=
  .object [("fieldName", .text s.name), ("label", .ofText? s.label), ("visible", .bool s.visible),
    ("sortable", (s.sortable.map Value.bool).getD .null)]

/-- The field without a schema to compare with: a missing label is the name, and a field is
sortable unless it says otherwise. -/
def toField (s : SavedField) : Field :=
  ⟨s.name, labelOr s.name s.label, s.visible, s.sortable.getD true⟩

end SavedField

end TableView
