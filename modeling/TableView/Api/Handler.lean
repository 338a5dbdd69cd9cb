import TableView.Api.Body
import TableView.Api.Payload
import TableView.Api.Route
import TableView.Api.World
import TableView.RequestLog.Search

/-!
# Actions

What each action of the service does, on the world and the request log as they are. An action
either answers with a response or is refused; only the store can be changed by it, and a change can
have been made although the action is refused.
-/

namespace TableView.Api

open Schema

/-- The outcome of an action. -/
abbrev Answer : Type := Except Refusal Response

namespace World

/-- An answer that leaves the world as it is. -/
def unchanged (w : World) (a : Answer) : Answer × World := (a, w)

/-- The answer to what was read from the store and the world with the store after it. -/
def stored {α : Type} (w : World) (refuse : Failure → Refusal) (response : α → Answer)
    (r : Except Failure α × Store) : Answer × World :=
  (match r.1 with
    | .ok a => response a
    | .error f => .error (refuse f),
    { w with store := r.2 })

/-- The answer where a configuration is missing. -/
def noConfig : Answer := .error (.declined 404 "Table config not found" none)

/-- The answer with a saved configuration. -/
def showSaved (s : SavedConfig) : Answer := .ok (.document s.toValue)

/-- List the objects, or those that contain the term of the query if it is not empty. -/
def listObjects (w : World) (query : Entries String) : Answer :=
  let found := match query.get? "search" with
    | some term => if term = "" then w.source.objects else w.source.searchObjects term
    | none => w.source.objects
  .ok (.document (.list (found.map Source.ObjectOption.toValue)))

/-- List the fields of an object, all of them visible. Only what says that discovery failed is
translated. -/
def listFields (w : World) (object : String) : Answer :=
  match (w.source.fields (some object)).bind FieldList.ofDiscovered with
  | .ok fields => .ok (.document fields.toValue)
  | .error e => .error (if e.family.isDiscovery then .translated e else .engine e)

/-- List the saved configurations. -/
def listConfigs (w : World) : Answer :=
  .ok (.document (.list (w.store.list.map ConfigSummary.toValue)))

/-- Save a new configuration. -/
def createConfig (w : World) (n : NewConfig) : Answer × World :=
  w.stored .translating showSaved (w.store.create n)

/-- Show a saved configuration. -/
def showConfig (w : World) (id : Int) : Answer × World :=
  w.stored .translating (fun found => (found.map showSaved).getD noConfig)
    (w.store.get (some id), w.store)

/-- Change a saved configuration. -/
def changeConfig (w : World) (id : Int) (change : ConfigChange) : Answer × World :=
  w.stored .translating showSaved (w.store.update (some id) change)

/-- Delete a saved configuration. -/
def deleteConfig (w : World) (id : Int) : Answer × World :=
  w.stored .ofFailure (fun deleted =>
    if deleted then
      .ok (.document (.object [("message", .text "Table config deleted successfully")]))
    else noConfig) (w.store.delete (some id))

/-- The failure of the last of some operations, if it has failed. -/
def lastFailure? {M : Task.Machine} (reports : List (Task.Report M)) : Option Failure :=
  reports.getLast?.bind fun r => Task.Desk.failure? r.stage

/-- Show a saved configuration merged with the fields that its object has now. -/
def reconcileConfig (w : World) (id : Int) : Answer × World :=
  let (desk, reports) := w.edit [.loadConfig (some id)]
  (match lastFailure? reports with
    | some f => .error (.translating f)
    | none => .ok (.document (Editor.Session.toConfig desk.state).toValue),
    desk.world)

/-- The preview that an editing session shows. -/
def previewOf (s : Editor.Session) : Except Failure Value := do
  let query ← s.query
  let preview ← s.preview
  return .object [("query", .text query), ("column_labels", .text s.labels),
    ("tokens", .list (s.resolution.tokens.map .text)),
    ("state", .text s.resolution.readiness.name), ("preview", .text preview),
    ("error_message", .ofText? s.resolution.error)]

/-- Preview a draft in a new editing session. -/
def preview (w : World) (body : PreviewBody) : Answer × World :=
  let (desk, reports) := w.edit body.commands
  (match lastFailure? reports with
    | some f => .error (.ofFailure f)
    | none => ((previewOf desk.state).mapError Refusal.ofFailure).map Response.document,
    desk.world)

/-- Run an operation in a new panel and sort what it shows by a field, if one is given and there
are rows. -/
def display (w : World) (command : Panel.Command) (field : Option String) (direction : Direction) :
    Except Refusal Rendered × World :=
  let (desk, report) := w.view command
  (match report.stage, Resolution.given field with
    | .finished (.error f), _ => .error (.ofFailure f)
    | .finished (.ok rendered), none => .ok rendered
    | .finished (.ok rendered), some field =>
      if Panel.State.hasData desk.state then
        .ok { rendered with grid := rendered.grid.sort field direction }
      else .ok rendered
    | .pending _, _ => .error (.breakdown (.failure (.badState "The rendering did not end"))),
    desk.world)

/-- Run a query and show its result. -/
def runQuery (w : World) (body : QueryBody) : Except Refusal Rendered × World :=
  w.display (.renderQuery body.query body.labels) body.sortField body.sortDirection

/-- Show the result of a saved configuration. -/
def render (w : World) (body : RenderBody) : Except Refusal Rendered × World :=
  w.display (.renderConfig (some body.configName) ⟨body.record, body.object, body.viewer⟩)
    body.sortField (body.sortDirection.getD .ascending)

/-- Why a cell has no form in a document, if it has none. -/
def cellBreakdown? : Value → Option Breakdown
  | .bytes content => match Text.decodeUtf8 false content.length content with
    | .ok _ => none
    | .error _ => some .bytesWithoutText
  | .float .nan | .float (.infinite _) => some .undefinedNumber
  | _ => none

/-- Why a table has no document, if it has none: bytes are looked at before numbers. -/
def breakdown? (rendered : Rendered) : Option Breakdown :=
  let found := rendered.grid.rows.flatMap fun row => row.filterMap fun e => cellBreakdown? e.2
  (found.find? (· = .bytesWithoutText)).or found.head?

/-- The answer with a table. -/
def tableAnswer (r : Except Refusal Rendered × World) : Answer × World :=
  (match r.1 with
    | .error refusal => .error refusal
    | .ok rendered => match breakdown? rendered with
      | some b => .error (.breakdown b)
      | none => .ok (.document rendered.toValue),
    r.2)

/-! ## Exports -/

/-- The file formats of an export. -/
inductive FileFormat
  | separated
  | sheet
  deriving DecidableEq

/-- The ending of the names of files. -/
def FileFormat.ending : FileFormat → String
  | separated => "csv"
  | sheet => "xlsx"

/-- The format of a name. -/
def FileFormat.named? (s : String) : Option FileFormat :=
  [separated, sheet].find? fun f => f.ending = s

/-- The name of the file of a configuration. -/
def fileName (configName : String) (format : FileFormat) : String :=
  String.ofList (configName.toList.map fun c => if c = ' ' then '_' else c) ++ "." ++
    format.ending

/-- Whether a header can hold the character. -/
def fitsHeader (c : Char) : Bool := c.toNat < 256

/-- The content of an export. -/
def exportContent (format : FileFormat) (configName : String) (t : ExportTable) :
    Except SheetFault Content :=
  match format with
  | .separated => .ok (.separated t.separated)
  | .sheet => (t.sheet configName).map Content.sheet

/-- The download of a shown table. A table with an error is not exported. -/
def exportOf (format : FileFormat) (configName : String) (rendered : Rendered) : Answer :=
  match Resolution.given rendered.error with
  | some message => .error (.declined 400 message none)
  | none =>
    match exportContent format configName (.ofGrid rendered.grid) with
    | .error f => .error (.breakdown (.sheet f))
    | .ok content =>
      let file := fileName configName format
      if file.toList.all fitsHeader then
        .ok ⟨200, [(Response.dispositionHeader, "attachment; filename=\"" ++ file ++ "\"")],
          content⟩
      else .error (.breakdown .headerText)

/-- Show the result of a saved configuration as a download. -/
def exportConfig (w : World) (query : Entries String) (body : RenderBody) : Answer × World :=
  let format := (query.get? "format").getD FileFormat.separated.ending
  match FileFormat.named? format with
  | none => (.error (.declined 400 ("Unsupported export format: " ++ format) none), w)
  | some format =>
    let (shown, w) := w.render body
    (shown.bind (exportOf format body.configName), w)

end World

/-! ## The log -/

/-- A search of the log and the page that is asked for. -/
structure LogSearch where
  limit : Int
  offset : Int
  filter : LogFilter
  deriving DecidableEq

/-- Read a search of the log from a query. -/
def LogSearch.ofQuery (query : Entries String) : Check LogSearch :=
  (fun limit offset hours statusMin statusMax =>
      ⟨limit, offset, ⟨hours, statusMin, statusMax, query.get? "search"⟩⟩)
    <$> queryInteger query "limit" (some 1) (some 1000) 50
    <*> queryInteger query "offset" (some 0) none 0
    <*> queryInteger query "hours" (some 1) (some 168) 24
    <*> queryInteger? query "status_min" (some 100) (some 599)
    <*> queryInteger? query "status_max" (some 100) (some 599)

/-- Whether the limits on the status leave no status. -/
def LogSearch.isContradictory (s : LogSearch) : Bool :=
  match s.filter.statusMin, s.filter.statusMax with
  | some low, some high => high < low
  | _, _ => false

/-- The breakdown at a number that does not fit a column. -/
def tooLarge : Refusal := .ofFailure Store.idOverflow

/-- The breakdown at a search term that is too long. -/
def patternTooLong : Refusal := .ofFailure (.storage "LIKE or GLOB pattern too complex")

/-- Search the log. The headers give the number of all entries that were found. -/
def searchLog (log : RequestLog) (now : Int) (s : LogSearch) : Answer :=
  if s.isContradictory then
    .error (.declined 400 "status_min cannot be greater than status_max" none)
  else if !Store.idFits s.offset then .error tooLarge
  else if log.refuses now s.filter then .error patternTooLong
  else
    let page := log.page now s.filter s.offset.toNat s.limit.toNat
    .ok ⟨200,
      [("x-total-count", toString (log.count now s.filter)), ("x-page-size", toString s.limit),
        ("x-page-offset", toString s.offset)],
      .document (.list (page.map LogEntry.toValue))⟩

/-- Show an entry of the log. -/
def showLogEntry (log : RequestLog) (id : Int) : Answer :=
  if !Store.idFits id then .error tooLarge
  else
    match log.get? id with
    | some e => .ok (.document e.toValue)
    | none => .error (.declined 404 "Log not found" none)

end TableView.Api
