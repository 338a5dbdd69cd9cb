import TableView.Config.Basic
import TableView.Json.Reader
import TableView.Text.Encoding
import TableView.Text.LetterCase

/-!
# Reading configurations

A configuration of any version is read: every member has a default, and members that are not known
are ignored. Before a member is checked, null stands for the default of the object, the filter,
the display options and the view state, a sort direction is taken in any letter case and an empty
one is ascending, and any value is taken for the row limit.
-/

namespace TableView

open Schema

/-- Read display options; `kind` is the fault of what is not an object. -/
def DisplayOptions.ofValue (kind : FaultKind) : Value → Check DisplayOptions :=
  object kind fun m =>
    DisplayOptions.mk <$> withDefault m "showRecordCount" "show_record_count" false boolean
      <*> withDefault m "showSearch" "show_search" false boolean
      <*> withDefault m "showRefresh" "show_refresh" false boolean

/-- Read a view state; `kind` is the fault of what is not an object. -/
def ViewState.ofValue (kind : FaultKind) : Value → Check ViewState :=
  object kind fun m =>
    ViewState.mk
      <$> withDefault m "fieldVisibilityFilter" "field_visibility_filter" .all
        (choice FieldFilter.named?)
      <*> withDefault m "contextObjectName" "context_object_name" none (optional string)
      <*> withDefault m "contextObjectLabel" "context_object_label" none (optional string)
      <*> withDefault m "contextSearchTerm" "context_search_term" none (optional string)
      <*> withDefault m "contextRecordId" "context_record_id" none (optional string)

namespace Config

/-- Put a value in place of null. -/
def ifNull (fallback : Value) : Value → Value
  | .null => fallback
  | v => v

/-- A sort direction before it is checked. -/
def prepareDirection : Value → Value
  | .null => .text Direction.ascending.name
  | .text s => .text (if s = "" then Direction.ascending.name else Text.lower s)
  | v => v

/-- Read the members of a configuration; `kind` is the fault of a part that is no object. -/
def ofMembers (kind : FaultKind) (m : Entries Value) : Check Config :=
  Config.mk <$> withDefault m "schemaVersion" "schema_version" 1 integer
    <*> withDefault m "objectApiName" "object_name" "" (string ∘ ifNull (.text ""))
    <*> withDefault m "fields" "fields" [] (list (SavedField.ofValue kind))
    <*> withDefault m "whereClause" "filter_clause" "" (string ∘ ifNull (.text ""))
    <*> withDefault m "limit" "row_limit" RowLimit.standard RowLimit.ofValue
    <*> withDefault m "defaultSortField" "default_sort_field" none (optional string)
    <*> withDefault m "defaultSortDirection" "default_sort_direction" .ascending
      (choice Direction.named? ∘ prepareDirection)
    <*> withDefault m "displayOptions" "display_options" .plain
      (DisplayOptions.ofValue kind ∘ ifNull (.object []))
    <*> withDefault m "viewState" "view_state" .initial
      (ViewState.ofValue kind ∘ ifNull (.object []))

/-- Read the document of a configuration; `kind` is the fault of what is not an object. -/
def ofValue (kind : FaultKind) : Value → Check Config :=
  Schema.object kind (ofMembers kind)

/-- Read a document that has to be an object. -/
def ofPayload : Value → Except Failure Config
  | .object m =>
    match ofMembers .modelType m with
    | .ok c => .ok c
    | .rejected faults => .error (.engine (.payloadInvalid faults))
    | .overflow message => .error (.overflow message)
  | _ => .error (.engine .payloadNotObject)

/-- Read a document that was itself read from a text. -/
def ofJson : Except String Value → Except Failure Config
  | .error message => .error (.engine (.payloadNotJson message))
  | .ok v => ofPayload v

/-- Read a configuration from a text, a byte string or a document. Specified in `SPEC_FULL.md` 3. -/
def read : Value → Except Failure Config
  | .null => .error (.engine .payloadEmpty)
  | .text s => ofJson (Json.read s)
  | .bytes content => ofJson ((Text.decodeBytes content).bind Json.readDecoded)
  | v => ofPayload v

end Config

end TableView
