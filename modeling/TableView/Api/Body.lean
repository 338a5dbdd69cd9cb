import TableView.Config.Draft
import TableView.Editor.Operation

/-!
# Request bodies

The bodies of the requests that preview a draft, run a query, or render a saved configuration.
Members that are not known are refused.
-/

namespace TableView.Api

open Schema

/-- A draft to preview, with the record it is looked at from. -/
structure PreviewBody where
  config : Config
  contextObject : Option String
  contextRecord : Option String
  deriving DecidableEq

/-- A query to run, with the labels of its columns and how to sort. -/
structure QueryBody where
  query : String
  labels : Option String
  sortField : Option String
  sortDirection : Direction
  deriving DecidableEq

/-- A saved configuration to render, where it is looked at and how to sort. -/
structure RenderBody where
  configName : String
  record : Option String
  object : Option String
  viewer : Option String
  sortField : Option String
  sortDirection : Option Direction
  deriving DecidableEq

namespace PreviewBody

/-- Read a draft to preview. `top` and `nested` are the faults of what is not an object. -/
def ofValue (top nested : FaultKind) : Value → Check PreviewBody :=
  object top fun m =>
    Check.withFaults (unknownMembers m ["config", "context_object_name", "context_record_id"]) <|
      PreviewBody.mk
        <$> required m "config" "config" (Config.ofValue nested)
        <*> withDefault m "context_object_name" "context_object_name" none (optional string)
        <*> withDefault m "context_record_id" "context_record_id" none (optional string)

/-- The operations of an editing session that preview the draft: the draft is taken over, the
record is selected as far as it is given, and what is missing then is fetched. -/
def commands (b : PreviewBody) : List Editor.Command :=
  [.applyDraft b.config] ++
    b.contextObject.toList.map (fun object => .selectContextObject (some object) none) ++
    b.contextRecord.toList.map (fun record => .selectContextRecord (some record)) ++
    [.ensureValues]

/-- The document of a draft to preview. -/
def toValue (b : PreviewBody) : Value :=
  .object [("config", b.config.toValue), ("context_object_name", .ofText? b.contextObject),
    ("context_record_id", .ofText? b.contextRecord)]

end PreviewBody

namespace QueryBody

/-- Read a query to run; `top` is the fault of what is not an object. -/
def ofValue (top : FaultKind) : Value → Check QueryBody :=
  object top fun m =>
    Check.withFaults
      (unknownMembers m ["query_string", "column_labels", "sort_field", "sort_direction"]) <|
      QueryBody.mk
        <$> required m "query_string" "query_string" string
        <*> withDefault m "column_labels" "column_labels" none (optional string)
        <*> withDefault m "sort_field" "sort_field" none (optional string)
        <*> withDefault m "sort_direction" "sort_direction" .ascending (choice Direction.named?)

/-- The document of a query to run. -/
def toValue (b : QueryBody) : Value :=
  .object [("query_string", .text b.query), ("column_labels", .ofText? b.labels),
    ("sort_field", .ofText? b.sortField), ("sort_direction", .text b.sortDirection.name)]

end QueryBody

namespace RenderBody

/-- Read a configuration to render; `top` is the fault of what is not an object. -/
def ofValue (top : FaultKind) : Value → Check RenderBody :=
  Schema.object top fun m =>
    Check.withFaults
      (unknownMembers m ["config_name", "record_id", "object_api_name", "viewer_id", "sort_field",
        "sort_direction"]) <|
      RenderBody.mk
        <$> required m "config_name" "config_name" string
        <*> withDefault m "record_id" "record_id" none (optional string)
        <*> withDefault m "object_api_name" "object_api_name" none (optional string)
        <*> withDefault m "viewer_id" "viewer_id" none (optional string)
        <*> withDefault m "sort_field" "sort_field" none (optional string)
        <*> withDefault m "sort_direction" "sort_direction" none
          (optional (choice Direction.named?))

/-- The document of a configuration to render. -/
def toValue (b : RenderBody) : Value :=
  .object [("config_name", .text b.configName), ("record_id", .ofText? b.record),
    ("object_api_name", .ofText? b.object), ("viewer_id", .ofText? b.viewer),
    ("sort_field", .ofText? b.sortField),
    ("sort_direction", .ofText? (b.sortDirection.map Direction.name))]

end RenderBody

end TableView.Api
