import TableView.Schema.Fault
import TableView.Value

/-!
# Errors

An `Error` is a cause: what went wrong in the terms of tables, fields and records. Its family
gives the status it is answered with, and `message` its words. A `Failure` is any way in which an
operation can end without a result.
-/

namespace TableView

/-- The families of errors. Specified in `SPEC_FULL.md` 7. -/
inductive Family
  | validation
  | discovery
  | objectNotFound
  | emptyResult
  | resolution
  | execution
  | configParse
  | configNotFound
  deriving DecidableEq

namespace Family

/-- The status that an error of the family is answered with. -/
def status : Family → Nat
  | validation => 400
  | discovery => 422
  | objectNotFound => 404
  | emptyResult => 422
  | resolution => 502
  | execution => 400
  | configParse => 400
  | configNotFound => 404

/-- Whether an error of the family says that schema discovery failed. -/
def isDiscovery : Family → Bool
  | discovery | objectNotFound | emptyResult => true
  | _ => false

/-- The name of a family in answers and in the request log. -/
def name : Family → String
  | validation => "ValidationError"
  | discovery => "DiscoveryError"
  | objectNotFound => "ObjectNotFound"
  | emptyResult => "EmptyResult"
  | resolution => "ResolutionError"
  | execution => "ExecutionError"
  | configParse => "ConfigParseError"
  | configNotFound => "ConfigNotFound"

end Family

/-- What went wrong. -/
inductive Error
  | configNameRequired
  | objectRequired
  | visibleFieldRequired
  | nameTaken (name : String)
  | noSavedConfig
  | unknownSortField (name : String)
  | recordPageRequired
  | noFieldsDiscovered
  | objectWithoutFields (object : String)
  | unknownObject (object : Option String)
  | unknownContextObject (object : Option String)
  | unknownFields (object : String) (names : List String)
  | noIdentifierColumn (object : String)
  | recordMissing (record : String) (object : String)
  | recordData (text : String)
  | emptyQuery
  | severalStatements
  | notSelect
  | unresolvedFields
  | database (text : String)
  | payloadEmpty
  | payloadNotJson (text : String)
  | payloadNotObject
  | payloadInvalid (faults : List Schema.Fault)
  | configIdNotFound (id : Option Int)
  | configNameNotFound (name : String)
  | reported (family : Family) (text : String)
  deriving DecidableEq

namespace Error

/-- The family of an error. -/
def family : Error → Family
  | configNameRequired | objectRequired | visibleFieldRequired | nameTaken _ | noSavedConfig
  | unknownSortField _ | recordPageRequired => .validation
  | noFieldsDiscovered | objectWithoutFields _ => .emptyResult
  | unknownObject _ => .objectNotFound
  | unknownContextObject _ | unknownFields _ _ | noIdentifierColumn _ | recordMissing _ _
  | recordData _ => .resolution
  | emptyQuery | severalStatements | notSelect | unresolvedFields | database _ => .execution
  | payloadEmpty | payloadNotJson _ | payloadNotObject | payloadInvalid _ => .configParse
  | configIdNotFound _ | configNameNotFound _ => .configNotFound
  | reported family _ => family

/-- The text of an optional text in a message. -/
def shown (s : Option String) : String :=
  (Value.ofText? s).toText

/-- The words for an error. -/
def message : Error → String
  | configNameRequired => "Config Name is required"
  | objectRequired => "Please select an object"
  | visibleFieldRequired => "At least one field must be visible"
  | nameTaken name => "A table config named '" ++ name ++ "' already exists"
  | noSavedConfig => "No saved config is selected"
  | unknownSortField name => "Unknown sort field: " ++ name
  | recordPageRequired => "$record merge fields require a record page"
  | noFieldsDiscovered => "No fields were discovered"
  | objectWithoutFields object => "Object '" ++ object ++ "' has no fields"
  | unknownObject object => "Object '" ++ shown object ++ "' not found"
  | unknownContextObject object => "Context object '" ++ shown object ++ "' not found"
  | unknownFields object names =>
    "Unknown fields on " ++ object ++ ": " ++ String.intercalate ", " names
  | noIdentifierColumn object => "Object '" ++ object ++ "' has no single identifier column"
  | recordMissing record object => "Record '" ++ record ++ "' not found on " ++ object
  | recordData text => "Record data error: " ++ text
  | emptyQuery => "Query string is empty"
  | severalStatements =>
    "Multiple SQL statements not allowed - only single SELECT statements permitted"
  | notSelect => "Only SELECT queries can be executed"
  | unresolvedFields => "Query still contains unresolved $record merge fields"
  | database text => text
  | payloadEmpty => "Configuration payload is empty"
  | payloadNotJson text => "Invalid JSON: " ++ text
  | payloadNotObject => "Configuration payload must be a JSON object"
  | payloadInvalid _ => "Invalid configuration"
  | configIdNotFound id => "Table config " ++ ((id.map Value.int).getD .null).toText ++ " not found"
  | configNameNotFound name => "Table config '" ++ name ++ "' not found"
  | reported _ text => text

/-- The status that an error is answered with. -/
def status (e : Error) : Nat :=
  e.family.status

end Error

/-- A way to end without a result. -/
inductive Failure
  | engine (e : Error)
  | schema (faults : List Schema.Fault)
  | overflow (text : String)
  | badValue (text : String)
  | badState (text : String)
  | storage (text : String)
  deriving DecidableEq

namespace Failure

/-- The name of the kind of a failure in the request log. -/
def kind : Failure → String
  | engine e => e.family.name
  | schema _ => "ValidationError"
  | overflow _ => "OverflowError"
  | badValue _ => "ValueError"
  | badState _ => "RuntimeError"
  | storage _ => "OperationalError"

/-- The words for a failure, as they are shown in place of a result. Of schema faults only the
number is told. -/
def message : Failure → String
  | engine e => e.message
  | schema faults =>
    toString faults.length ++ " validation error" ++ (if faults.length = 1 then "" else "s")
  | overflow text | badValue text | badState text | storage text => text

end Failure

end TableView
