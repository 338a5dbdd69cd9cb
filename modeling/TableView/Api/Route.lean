import TableView.Entries

/-!
# Routes

A path names a resource, and a method on it asks for an action. The identifying parts of a path
are handed on as texts. A line feed at the very end of a path is not looked at where the path ends
in a fixed word. A path that names a resource only with its last slash added or removed is moved.

The pages that describe the service to its users, and the one that a sign-in on them comes back to,
are fixed texts and no resources here: a request for one of them leads nowhere. Nor are there
requests that a browser makes ahead of a request to another origin, which are answered before the
service is asked (`Request`).
-/

namespace TableView.Api

/-- What a path names. Specified in `SPEC_FULL.md` 6. -/
inductive Resource
  | objects
  | fields (object : String)
  | configs
  | config (id : String)
  | reconciliation (id : String)
  | preview
  | query
  | rendering
  | exported
  | log
  | logEntry (id : String)
  deriving DecidableEq

/-- What a request asks for. -/
inductive Action
  | listObjects
  | listFields (object : String)
  | listConfigs
  | createConfig
  | showConfig (id : String)
  | changeConfig (id : String)
  | deleteConfig (id : String)
  | reconcileConfig (id : String)
  | preview
  | runQuery
  | render
  | export
  | searchLog
  | showLogEntry (id : String)
  deriving DecidableEq

namespace Resource

/-- A part of a path that identifies something must not be empty. -/
def identified (part : String) (resource : String → Resource) : Option Resource :=
  if part = "" then none else some (resource part)

/-- The resource that the parts of a path name. -/
def ofParts : List String → Option Resource
  | ["", "api", "tables", "objects"] => some objects
  | ["", "api", "tables", "objects", object, "fields"] => identified object fields
  | ["", "api", "tables", "configs"] => some configs
  | ["", "api", "tables", "configs", id] => identified id config
  | ["", "api", "tables", "configs", id, "reconcile"] => identified id reconciliation
  | ["", "api", "tables", "preview"] => some preview
  | ["", "api", "tables", "query"] => some query
  | ["", "api", "tables", "render"] => some rendering
  | ["", "api", "tables", "render", "export"] => some exported
  | ["", "api", "logs", ""] => some log
  | ["", "api", "logs", id] => identified id logEntry
  | _ => none

/-- Whether the path of a resource ends in a fixed word. -/
def endsFixed : Resource → Bool
  | config _ | logEntry _ => false
  | _ => true

/-- The parts of a path between its slashes. -/
def parts (path : List Char) : List String :=
  (path.splitOn '/').map String.ofList

/-- The resource that a path names. -/
def ofPath? (path : List Char) : Option Resource :=
  match path.getLast? with
  | some '\n' =>
    match (ofParts (parts path.dropLast)).filter endsFixed with
    | some r => some r
    | none => ofParts (parts path)
  | _ => ofParts (parts path)

/-- The action that a method asks for. -/
def action? (r : Resource) (method : String) : Option Action :=
  match r, method with
  | objects, "GET" => some .listObjects
  | fields object, "GET" => some (.listFields object)
  | configs, "GET" => some .listConfigs
  | configs, "POST" => some .createConfig
  | config id, "GET" => some (.showConfig id)
  | config id, "PATCH" => some (.changeConfig id)
  | config id, "DELETE" => some (.deleteConfig id)
  | reconciliation id, "POST" => some (.reconcileConfig id)
  | preview, "POST" => some .preview
  | query, "POST" => some .runQuery
  | rendering, "POST" => some .render
  | exported, "POST" => some .export
  | log, "GET" => some .searchLog
  | logEntry id, "GET" => some (.showLogEntry id)
  | _, _ => none

end Resource

/-- Where a request leads. -/
inductive Route
  | action (a : Action)
  | wrongMethod
  | moved
  | unknown
  deriving DecidableEq

namespace Route

/-- The path with its last slashes removed, or else with one added. -/
def otherSlash (path : List Char) : List Char :=
  if path.getLast? = some '/' then (path.reverse.dropWhile (· == '/')).reverse else path ++ ['/']

/-- Where the request of a method and a path leads. -/
def find (method path : String) : Route :=
  match Resource.ofPath? path.toList with
  | some r => match r.action? method with
    | some a => action a
    | none => wrongMethod
  | none =>
    if path ≠ "/" ∧ (Resource.ofPath? (otherSlash path.toList)).isSome then moved else unknown

end Route

end TableView.Api
