import TableView.Api.Handler

/-!
# The service

The service answers one request after another and keeps the log of them. A request is routed, its
body and its numbers are checked, and its action is run. What comes of it goes through three layers:
the innermost gives a refusal its response, the next one records a request with the response it got,
unless its path is one of those that are not recorded, and the outermost answers and records a
breakdown, which the other two let through.
-/

namespace TableView.Api

open Schema

/-- Who runs the service, as the log keeps it. -/
structure Host where
  username : String
  application : String
  deriving DecidableEq

/-- The world, the log and the host. -/
structure Service where
  world : World
  log : RequestLog
  host : Host

/-! ## What is read of a request -/

/-- Read the id of a saved configuration. -/
def configId (id : String) : Except Refusal (Check Int) := .ok (pathInteger "config_id" id)

/-- Read the id of an entry of the log. -/
def logId (id : String) : Except Refusal (Check Int) := .ok (pathInteger "log_id" id)

namespace Request

/-- Read a new configuration. -/
def newConfig (r : Request) : Except Refusal (Check NewConfig) :=
  readBody (NewConfig.ofValue .modelAttributesType .modelAttributesType) r.body

/-- Read the id of a saved configuration and a change of it. -/
def configChange (id : String) (r : Request) : Except Refusal (Check (Int × ConfigChange)) :=
  (readBody (ConfigChange.ofValue .modelAttributesType .modelAttributesType) r.body).map
    fun change => Prod.mk <$> pathInteger "config_id" id <*> change

/-- Read a draft to preview. -/
def previewBody (r : Request) : Except Refusal (Check PreviewBody) :=
  readBody (PreviewBody.ofValue .modelAttributesType .modelAttributesType) r.body

/-- Read a query to run. -/
def queryBody (r : Request) : Except Refusal (Check QueryBody) :=
  readBody (QueryBody.ofValue .modelAttributesType) r.body

/-- Read a configuration to render. -/
def renderBody (r : Request) : Except Refusal (Check RenderBody) :=
  readBody (RenderBody.ofValue .modelAttributesType) r.body

end Request

namespace World

/-- Run an action on what was read for it. -/
def answerRead {α : Type} (w : World) (check : Except Refusal (Check α))
    (run : α → Answer × World) : Answer × World :=
  match check.bind Refusal.ofCheck with
  | .ok a => run a
  | .error refusal => (.error refusal, w)

/-- Run the action that a request asks for. -/
def perform (w : World) (log : RequestLog) (now : Int) (r : Request) :
    Action → Answer × World
  | .listObjects => (w.listObjects r.query, w)
  | .listFields object => (w.listFields object, w)
  | .listConfigs => (w.listConfigs, w)
  | .createConfig => w.answerRead r.newConfig w.createConfig
  | .showConfig id => w.answerRead (configId id) w.showConfig
  | .changeConfig id =>
    w.answerRead (r.configChange id) fun read => w.changeConfig read.1 read.2
  | .deleteConfig id => w.answerRead (configId id) w.deleteConfig
  | .reconcileConfig id => w.answerRead (configId id) w.reconcileConfig
  | .preview => w.answerRead r.previewBody w.preview
  | .runQuery => w.answerRead r.queryBody fun body => tableAnswer (w.runQuery body)
  | .render => w.answerRead r.renderBody fun body => tableAnswer (w.render body)
  | .export => w.answerRead r.renderBody (w.exportConfig r.query)
  | .searchLog =>
    w.answerRead (.ok (LogSearch.ofQuery r.query)) fun search => (Api.searchLog log now search, w)
  | .showLogEntry id => w.answerRead (logId id) fun id => (Api.showLogEntry log id, w)

end World

/-- What the log keeps of a request that was answered. -/
def Host.record (host : Host) (now : Int) (r : Request) (requestBody : String) (status : Nat)
    (responseBody errorType : Option String) : LogRecord :=
  ⟨now, r.method, r.urlPath, status, some requestBody, responseBody, r.userAgent,
    some host.username, some host.application, errorType⟩

namespace Service

/-- Answer a request, without recording it. -/
def answer (s : Service) (now : Int) (r : Request) : Answer × World :=
  match Route.find r.method r.path with
  | .action a => s.world.perform s.log now r a
  | .wrongMethod => (.error .wrongMethod, s.world)
  | .moved => (.ok .moved, s.world)
  | .unknown => (.error .unknownPath, s.world)

/-- Give a refusal its response, and note the kind of error that the log keeps of it. A breakdown
goes on to what is around. -/
def respond : Answer → Except Breakdown Response × Option String
  | .ok response => (.ok response, none)
  | .error (.breakdown b) => (.error b, none)
  | .error refusal => (.ok refusal.response, refusal.errorType)

/-- What is recorded with a response: the request, if its path is recorded. -/
def recordsOfResponse (host : Host) (now : Int) (r : Request) (errorType : Option String) :
    Except Breakdown Response → List LogRecord
  | .ok response =>
    if r.isRecorded then
      [host.record now r r.body response.status (some response.recordedBody) errorType]
    else []
  | .error _ => []

/-- What is recorded of a breakdown that has come through. The body of the request is known only if
it was read to be recorded with the response. -/
def recordsOfBreakdown (host : Host) (now : Int) (r : Request) :
    Except Breakdown Response → List LogRecord
  | .ok _ => []
  | .error b =>
    let refusal := Refusal.breakdown b
    [host.record now r (if r.isRecorded then r.body else "") refusal.status none refusal.errorType]

/-- The response to what has come through. -/
def finalResponse : Except Breakdown Response → Response
  | .ok response => response
  | .error b => (Refusal.breakdown b).response

/-- Answer a request and record it. Specified in `SPEC_FULL.md` 7 and 9. -/
def handle (s : Service) (now : Int) (r : Request) : Response × Service :=
  let (a, world) := s.answer now r
  let (outcome, errorType) := respond a
  let records := recordsOfResponse s.host now r errorType outcome ++
    recordsOfBreakdown s.host now r outcome
  ((finalResponse outcome).sentTo r,
    { s with world := world, log := records.foldl RequestLog.add s.log })

end Service

end TableView.Api
