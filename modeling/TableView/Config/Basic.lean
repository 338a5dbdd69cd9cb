import TableView.Field.List
import TableView.Json.Printer
import TableView.RowLimit

/-!
# Table configurations

A configuration says which table to show: the object, its fields, a filter, a row limit, how to
sort, what to display, and where the person who edits it left off. `toValue` gives its document in
the persisted key order, and `print` the stored text, which always carries the current version.
-/

namespace TableView

/-- What is shown around the rows of a table. -/
structure DisplayOptions where
  recordCount : Bool
  search : Bool
  refresh : Bool
  deriving DecidableEq

/-- Where the editing of a configuration was left: the list filter and the context record. -/
structure ViewState where
  fieldFilter : FieldFilter
  contextObject : Option String
  contextLabel : Option String
  searchTerm : Option String
  contextRecord : Option String
  deriving DecidableEq

/-- The configuration of a table. Specified in `SPEC_FULL.md` 3. -/
structure Config where
  version : Int
  object : String
  fields : List SavedField
  filter : String
  limit : Nat
  sortField : Option String
  sortDirection : Direction
  display : DisplayOptions
  viewState : ViewState
  deriving DecidableEq

namespace DisplayOptions

/-- Nothing but the rows. -/
def plain : DisplayOptions := ⟨false, false, false⟩

/-- The document of display options. -/
def toValue (d : DisplayOptions) : Value :=
  .object [("showRecordCount", .bool d.recordCount), ("showSearch", .bool d.search),
    ("showRefresh", .bool d.refresh)]

end DisplayOptions

namespace ViewState

/-- Every field listed, and no context. -/
def initial : ViewState := ⟨.all, none, none, none, none⟩

/-- The document of a view state. -/
def toValue (s : ViewState) : Value :=
  .object [("fieldVisibilityFilter", .text s.fieldFilter.name),
    ("contextObjectName", .ofText? s.contextObject),
    ("contextObjectLabel", .ofText? s.contextLabel),
    ("contextSearchTerm", .ofText? s.searchTerm),
    ("contextRecordId", .ofText? s.contextRecord)]

end ViewState

namespace Config

/-- The version of configurations written now. -/
def currentVersion : Int := 2

/-- The document of a configuration. -/
def toValue (c : Config) : Value :=
  .object [("schemaVersion", .int c.version), ("objectApiName", .text c.object),
    ("fields", .list (c.fields.map SavedField.toValue)), ("whereClause", .text c.filter),
    ("limit", .int c.limit), ("defaultSortField", .ofText? c.sortField),
    ("defaultSortDirection", .text c.sortDirection.name),
    ("displayOptions", c.display.toValue), ("viewState", c.viewState.toValue)]

/-- The configuration in the current version. -/
def current (c : Config) : Config := { c with version := currentVersion }

/-- The stored text of a configuration. -/
def print (c : Config) : String := Json.print .stored c.current.toValue

/-- Whether a field is saved as visible. -/
def anyVisible (c : Config) : Bool := c.fields.any SavedField.visible

end Config

end TableView
