import TableView.Editor.Call

/-!
# Operations of a session

An operation starts on the session as it is and either finishes or suspends on a call. When the
reply comes, the session may have moved on: fields count only for the object that is still
selected, a loaded configuration only in the generation that asked for it, values only for a
current ticket, and search results only for the latest term.
-/

namespace TableView.Editor

/-- An operation on a session. Specified in `SPEC_FULL.md` 4.7. -/
inductive Command
  | loadObjects
  | selectObject (name : Option String)
  | setFieldVisible (name : String) (visible : Bool)
  | setFieldLabel (name label : String)
  | setFieldSortable (name : String) (sortable : Bool)
  | setAllVisible (visible : Bool)
  | moveFieldUp (name : String)
  | moveFieldDown (name : String)
  | setFieldFilter (filter : Value)
  | startDrag (name : String)
  | dropOn (target : String) (after : Bool)
  | endDrag
  | setFilter (filter : Option String)
  | setRowLimit (limit : Value)
  | setDefaultSort (field : Option String) (direction : Value)
  | setDisplay (recordCount search refresh : Option Bool)
  | searchContextObjects (term : String)
  | selectContextObject (object label : Option String)
  | selectContextRecord (record : Option String)
  | clearContext
  | refreshValues
  | ensureValues
  | new
  | clone
  | applyDraft (config : Config)
  | loadConfig (id : Option Int)
  | saveConfig (name description : Option String)
  | deleteConfig
  | listConfigs
  | toConfig

namespace Session

/-- A session and an operation on it that is finished without a result to show. -/
def finish (s : Session) : Session × Progress := (s, .finished (.ok .done))

/-- A session and an operation on it that has failed. -/
def fail (s : Session) (f : Failure) : Session × Progress := (s, .finished (.error f))

/-- Go on with the rest of an operation, unless it has failed. -/
def andThen (rest : Session → Session × Progress) :
    Except Failure Unit × Session → Session × Progress
  | (.ok (), s) => rest s
  | (.error f, s) => s.fail f

/-- A session and an operation on it that has come to an end. -/
def conclude : Except Failure Unit × Session → Session × Progress := andThen finish

/-- Start a fetch of the values of the merge tokens. -/
def fetch (s : Session) : Session × Progress :=
  match s.resolution.begin? with
  | .error f => s.fail f
  | .ok (ticket, r) => (s.withResolution r, .pending (.values ticket))

/-- Start a fetch if a token has no value for the selected record. -/
def fetchIfNeeded (s : Session) : Session × Progress :=
  if s.resolution.needsFetch then s.fetch else s.finish

/-- Look for merge tokens again, and start a fetch if that is needed now. -/
def rescanAndFetch (s : Session) : Session × Progress := andThen fetchIfNeeded s.rescan

/-- Select another object and ask for its fields. -/
def selectObject (s : Session) (name : String) : Session × Progress :=
  let s := { s with draft := { s.draft with object := name } }
  if name = "" then s.dropFields.finish
  else ({ s with loading := true }, .pending (.fields name))

/-- Ask for a saved configuration. -/
def loadConfig (s : Session) (id : Option Int) : Session × Progress :=
  ({ s with generation := s.generation + 1 }, .pending (.entry id (s.generation + 1)))

/-- Hand the draft over to be saved. -/
def saveConfig (s : Session) (name description : Option String) : Session × Progress :=
  let name := Text.trim (name.getD s.draft.name)
  if name = "" then s.fail (.engine .configNameRequired)
  else if s.draft.object = "" then s.fail (.engine .objectRequired)
  else if !s.draft.fields.anyVisible then s.fail (.engine .visibleFieldRequired)
  else
    ({ s with loading := true },
      .pending (.saving s.toConfig name (description.getD s.draft.description) s.draft.configId))

/-- Ask for the saved configuration of the draft to be deleted. -/
def deleteConfig (s : Session) : Session × Progress :=
  if s.deleteDisabled then s.fail (.engine .noSavedConfig)
  else (s, .pending (.deleting s.draft.configId))

/-- Start an operation. -/
def start (s : Session) : Command → Session × Progress
  | .loadObjects => (s, .pending .objects)
  | .selectObject name => s.selectObject (name.getD "")
  | .setFieldVisible name visible =>
    (s.withFields (s.draft.fields.setVisible name visible)).rescanAndFetch
  | .setFieldLabel name label => (s.withFields (s.draft.fields.setLabel name label)).finish
  | .setFieldSortable name sortable =>
    (s.withFields (s.draft.fields.setSortable name sortable)).finish
  | .setAllVisible visible => (s.withFields (s.draft.fields.setAllVisible visible)).rescanAndFetch
  | .moveFieldUp name => (s.withFields (s.draft.fields.moveUp name)).finish
  | .moveFieldDown name => (s.withFields (s.draft.fields.moveDown name)).finish
  | .setFieldFilter filter => conclude (s.setFieldFilter filter)
  | .startDrag name => (s.startDrag name).finish
  | .dropOn target after => (s.dropOn target after).finish
  | .endDrag => s.endDrag.finish
  | .setFilter filter =>
    rescanAndFetch { s with draft := { s.draft with filter := filter.getD "" } }
  | .setRowLimit limit => conclude (s.setRowLimit limit)
  | .setDefaultSort field direction => conclude (s.setDefaultSort field direction)
  | .setDisplay recordCount search refresh => (s.setDisplay recordCount search refresh).finish
  | .searchContextObjects term =>
    ({ s with context := { s.context with searchTerm := some term } }, .pending (.search term))
  | .selectContextObject object label => (s.selectContextObject object label).fetchIfNeeded
  | .selectContextRecord record => (s.selectContextRecord record).fetchIfNeeded
  | .clearContext => s.clearContext.finish
  | .refreshValues =>
    if s.resolution.record.getD "" ≠ "" ∧ s.resolution.tokens ≠ [] then s.fetch else s.finish
  | .ensureValues => s.fetchIfNeeded
  | .new => s.reset.finish
  | .clone => conclude s.clone
  | .applyDraft config => conclude (s.applyDraft config)
  | .loadConfig id => s.loadConfig id
  | .saveConfig name description => s.saveConfig name description
  | .deleteConfig => s.deleteConfig
  | .listConfigs => (s, .pending .configs)
  | .toConfig => (s, .finished (.ok (.config s.toConfig)))

/-! ## Replies -/

/-- Whether a failure says that schema discovery failed. -/
def isDiscovery : Failure → Bool
  | .engine e => e.family.isDiscovery
  | _ => false

/-- The field list of discovered fields. -/
def discovered : Except Failure (List DiscoveredField) → Except Failure FieldList
  | .error f => .error f
  | .ok found => (FieldList.ofDiscovered found).mapError .engine

/-- The objects to choose from have come; if there are none to be had the list is empty. -/
def resumeObjects (s : Session) :
    Except Failure (List Source.ObjectOption) → Session × Progress
  | .ok found => ({ s with objects := found }, .finished (.ok (.objects found)))
  | .error f =>
    if isDiscovery f then ({ s with objects := [] }, .finished (.ok (.objects []))) else s.fail f

/-- The fields of a selected object have come. -/
def resumeFields (s : Session) (requested : String)
    (reply : Except Failure (List DiscoveredField)) : Session × Progress :=
  let s := { s with loading := false }
  match discovered reply with
  | .error f =>
    if isDiscovery f ∧ s.draft.object = requested then s.dropFields.fail f else s.fail f
  | .ok fields =>
    if s.draft.object = requested then (s.takeFields fields).rescanAndFetch else s.finish

/-- The results of a search have come. They are shown if no other term was searched since. -/
def resumeSearch (s : Session) (term : String) :
    Except Failure (List Source.ObjectOption) → Session × Progress
  | .error f => s.fail f
  | .ok found =>
    let s :=
      if s.context.searchTerm = some term then
        { s with context := { s.context with results := found, showResults := !found.isEmpty } }
      else s
    (s, .finished (.ok (.objects found)))

/-- The values of a record have come, or could not be fetched. -/
def resumeValues (s : Session) (ticket : Ticket) :
    Except Failure (Entries Value) → Session × Progress
  | .ok values => (s.withResolution (s.resolution.applyValues ticket values).2).finish
  | .error f => (s.withResolution (s.resolution.applyFailure ticket f.message).2).finish

/-- A saved configuration has come. -/
def resumeEntry (s : Session) (id : Option Int) (generation : Nat) :
    Except Failure (Option SavedConfig) → Session × Progress
  | .error f => s.fail f
  | .ok none => s.fail (.engine (.configIdNotFound id))
  | .ok (some entry) =>
    if s.generation = generation then
      ({ s with loading := true }, .pending (.entryFields id generation entry))
    else s.finish

/-- The fields of the object of a saved configuration have come. -/
def resumeEntryFields (s : Session) (id : Option Int) (generation : Nat) (entry : SavedConfig)
    (reply : Except Failure (List DiscoveredField)) : Session × Progress :=
  let s := { s with loading := false }
  match discovered reply with
  | .error f =>
    if isDiscovery f ∧ s.generation = generation then (s.applySaved entry .empty id).2.fail f
    else s.fail f
  | .ok live =>
    if s.generation = generation then
      andThen fetchIfNeeded (s.applySaved entry (.reconcile entry.config.fields live) id)
    else s.finish

/-- The draft has been saved. -/
def resumeSaving (s : Session) (name description : String) :
    Except Failure Nat → Session × Progress
  | .error f => fail { s with loading := false } f
  | .ok id =>
    ({ s with
        loading := false
        draft := { s.draft with configId := some id, name := name, description := description } },
      .finished (.ok (.configId id)))

/-- The saved configuration of the draft has been deleted. -/
def resumeDeleting (s : Session) : Except Failure Bool → Session × Progress
  | .error f => s.fail f
  | .ok _ => s.reset.finish

/-- The saved configurations have been listed. -/
def resumeConfigs (s : Session) : Except Failure (List ConfigSummary) → Session × Progress
  | .error f => s.fail f
  | .ok found => (s, .finished (.ok (.configs found)))

/-- Go on with a suspended operation when the reply to its call has come. -/
def resume (s : Session) : (p : Suspension) → p.call.Reply → Session × Progress
  | .objects, reply => s.resumeObjects reply
  | .fields requested, reply => s.resumeFields requested reply
  | .search term, reply => s.resumeSearch term reply
  | .values ticket, reply => s.resumeValues ticket reply
  | .entry id generation, reply => s.resumeEntry id generation reply
  | .entryFields id generation entry, reply => s.resumeEntryFields id generation entry reply
  | .saving _ name description _, reply => s.resumeSaving name description reply
  | .deleting _, reply => s.resumeDeleting reply
  | .configs, reply => s.resumeConfigs reply

end Session

/-- Editing sessions and their operations. -/
def machine : Task.Machine where
  State := Session
  Command := Command
  Call := Call
  Answer := Call.Answer
  Suspension := Suspension
  Result := Result
  call := Suspension.call
  callsLeft := Suspension.callsLeft
  start := Session.start
  resume := Session.resume

end TableView.Editor
