import TableView.Panel.State

/-!
# Renderings

A panel renders a saved configuration by its name, or a query that is handed to it. Rendering a
configuration loads it, fetches the values of its merge tokens for the record of the page, and
runs the query; a query that is handed over is run at once. A rendering ends early where
something is missing or fails, and it changes nothing any more once a later one has been started.
-/

namespace TableView.Panel

/-- Where a configuration is looked at: the record of the page, its object, and who looks. -/
structure Page where
  record : Option String
  object : Option String
  viewer : Option String

/-- An operation on a panel. Specified in `SPEC_FULL.md` 4.8. -/
inductive Command
  | renderConfig (name : Option String) (page : Page)
  | renderQuery (query : String) (labels : Option String)
  | sort (field : String) (direction : Value)

/-- A request to the outside. -/
inductive Call
  | config (name : String)
  | values (object : Option String) (record : String) (names : List String)
  | execute (query : String)

/-- The type of the answer to a call. -/
def Call.Answer : Call → Type
  | config _ => Config
  | values _ _ _ => Entries Value
  | execute _ => QueryResult

/-- What comes back from a call. -/
abbrev Call.Reply (c : Call) : Type := Except Failure c.Answer

/-- A rendering that waits for the reply to its call. -/
inductive Suspension
  | config (generation : Nat) (name : String) (page : Page)
  | values (generation : Nat) (config : Config) (query : String) (resolution : Resolution)
      (ticket : Ticket) (page : Page)
  | execution (generation : Nat) (query : String) (sort : Option (String × Direction))

namespace Suspension

/-- The call that a rendering waits for. -/
def call : Suspension → Call
  | config _ name _ => .config name
  | values _ _ _ _ ticket _ => .values ticket.object ticket.record ticket.names
  | execution _ query _ => .execute query

/-- The most calls that the rendering can still make, this one included. -/
def callsLeft : Suspension → Nat
  | config _ _ _ => 3
  | values _ _ _ _ _ _ => 2
  | execution _ _ _ => 1

end Suspension

/-- How far an operation has come. -/
abbrev Progress : Type := Task.Progress Suspension Rendered

namespace State

/-- A panel and an operation on it that ends with what the panel shows. -/
def finish (s : State) : State × Progress := (s, .finished (.ok s.rendered))

/-- A panel and an operation on it that has failed. -/
def fail (s : State) (f : Failure) : State × Progress := (s, .finished (.error f))

/-- Run a query. -/
def execute (s : State) (generation : Nat) (query : String)
    (sort : Option (String × Direction)) : State × Progress :=
  ({ s with loading := true, error := "" }, .pending (.execution generation query sort))

/-- How a configuration wants its rows sorted. -/
def wantedSort (c : Config) : Option (String × Direction) :=
  (Resolution.given c.sortField).map (·, c.sortDirection)

/-- Run the query of a configuration with its tokens filled in. -/
def executeResolved (s : State) (generation : Nat) (c : Config) (query : String)
    (r : Resolution) (page : Page) : State × Progress :=
  s.execute generation
    (Merge.preview query r.tokens r.readiness r.values page.viewer page.record) (wantedSort c)

/-- Ask for the values of the merge tokens. Without a record page there are none. -/
def fetch (s : State) (generation : Nat) (c : Config) (query : String) (r : Resolution)
    (page : Page) : State × Progress :=
  match Resolution.given page.object, Resolution.given page.record with
  | some object, some record =>
    let r := (r.selectObject (some object)).selectRecord (some record)
    match r.begin? with
    | .error f => s.fail f
    | .ok (ticket, r) =>
      ({ s with loading := true }, .pending (.values generation c query r ticket page))
  | _, _ => (s.showError Error.recordPageRequired.message).finish

/-- Render a configuration that has been loaded. -/
def renderLoaded (s : State) (generation : Nat) (c : Config) (page : Page) : State × Progress :=
  let fields := FieldList.ofSaved c.fields
  if !fields.anyVisible then (s.showError "No visible fields configured").finish
  else
    let s := { s with labels := Labels.ofFields fields }
    match Query.compileWith c.object fields c.filter (.int c.limit) with
    | .error f => s.fail f
    | .ok query =>
      let r := Resolution.empty.withQuery query
      if r.readiness = .noTokens then s.executeResolved generation c query r page
      else s.fetch generation c query r page

/-- Start an operation. -/
def start (s : State) : Command → State × Progress
  | .renderConfig name page =>
    let s := s.restart
    match Resolution.given name with
    | none => (s.showError "A config name is required").finish
    | some name => ({ s with loading := true }, .pending (.config s.generation name page))
  | .renderQuery query labels =>
    let s := s.restart
    let s := { s with labels := Labels.decode (labels.getD "") }
    s.execute s.generation query none
  | .sort field direction =>
    match Direction.ofValue direction with
    | .error f => s.fail f
    | .ok direction => finish { s with grid := s.grid.sort field direction }

/-- The configuration has come. -/
def resumeConfig (s : State) (generation : Nat) (page : Page) :
    Except Failure Config → State × Progress
  | .error (.engine e) =>
    (ifLatest { s with loading := false } generation (·.showError e.message)).finish
  | .error f => fail { s with loading := false } f
  | .ok c =>
    let s := { s with loading := false }
    if s.generation = generation then s.renderLoaded generation c page else s.finish

/-- The values of the merge tokens have come, or could not be fetched. -/
def resumeValues (s : State) (generation : Nat) (c : Config) (query : String) (r : Resolution)
    (ticket : Ticket) (page : Page) : Except Failure (Entries Value) → State × Progress
  | .error f => (ifLatest { s with loading := false } generation (·.showError f.message)).finish
  | .ok values =>
    let s := { s with loading := false }
    if s.generation = generation then
      s.executeResolved generation c query (r.applyValues ticket values).2 page
    else s.finish

/-- Show a result and sort it. -/
def showResult (s : State) (query : String) (sort : Option (String × Direction))
    (result : QueryResult) : State :=
  let s := { s with query := some query, grid := Grid.load result s.labels }
  match sort with
  | some (field, direction) =>
    if s.hasData then { s with grid := s.grid.sort field direction } else s
  | none => s

/-- The query has been run, or could not be. -/
def resumeExecution (s : State) (generation : Nat) (query : String)
    (sort : Option (String × Direction)) : Except Failure QueryResult → State × Progress
  | .error f =>
    let s := { s with loading := false }
    match f with
    | .engine e =>
      if e.family = .execution then
        (s.ifLatest generation fun s => { s.showError e.message with grid := .empty }).finish
      else s.fail f
    | _ => s.fail f
  | .ok result =>
    let s := { s with loading := false }
    (s.ifLatest generation (·.showResult query sort result)).finish

/-- Go on with a rendering when the reply to its call has come. -/
def resume (s : State) : (p : Suspension) → p.call.Reply → State × Progress
  | .config generation _ page, reply => s.resumeConfig generation page reply
  | .values generation c query r ticket page, reply =>
    s.resumeValues generation c query r ticket page reply
  | .execution generation query sort, reply => s.resumeExecution generation query sort reply

end State

/-- Panels and their renderings. -/
def machine : Task.Machine where
  State := State
  Command := Command
  Call := Call
  Answer := Call.Answer
  Suspension := Suspension
  Result := Rendered
  call := Suspension.call
  callsLeft := Suspension.callsLeft
  start := State.start
  resume := State.resume

end TableView.Panel
