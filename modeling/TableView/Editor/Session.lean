import TableView.Config.Basic
import TableView.Field.Reconcile
import TableView.Labels
import TableView.Merge.Preview
import TableView.Query
import TableView.Source.Lookup
import TableView.Store.Basic

/-!
# Editing sessions

A session holds the draft of one configuration and, beside it, what is never saved: the context
record with its values, the search for context objects, and a field that is being dragged. This
module has the state, what is shown of it, and the edits that need nothing from outside.
-/

namespace TableView.Editor

open TableView.Source (ObjectOption)

/-- The configuration that is being edited. -/
structure Draft where
  configId : Option Int
  name : String
  description : String
  object : String
  fields : FieldList
  filter : String
  limit : Nat
  sortField : Option String
  direction : Direction
  display : DisplayOptions
  fieldFilter : FieldFilter

/-- What belongs to a session and not to the draft. Specified in `SPEC_FULL.md` 3. -/
structure Context where
  resolution : Resolution
  label : Option String
  searchTerm : Option String
  results : List ObjectOption
  showResults : Bool
  dragging : Option String

/-- An editing session. The generation counts the loads and resets of the draft. Specified in
`SPEC_FULL.md` 4.7. -/
structure Session where
  viewer : Option String
  objects : List ObjectOption
  loading : Bool
  generation : Nat
  draft : Draft
  context : Context

/-- A draft of nothing. -/
def Draft.empty : Draft :=
  ⟨none, "", "", "", .empty, "", RowLimit.standard, none, .ascending, .plain, .all⟩

/-- No context record, no search and nothing dragged. -/
def Context.empty : Context := ⟨.empty, none, none, [], false, none⟩

namespace Session

/-- The session that a viewer starts with. -/
def initial (viewer : Option String) : Session := ⟨viewer, [], false, 0, .empty, .empty⟩

/-! ## What is shown -/

/-- The query of the draft, unless its row limit cannot be written. -/
def query (s : Session) : Except Failure String :=
  Query.compileWith s.draft.object s.draft.fields s.draft.filter (.int s.draft.limit)

/-- The labels of the columns. -/
def labels (s : Session) : String :=
  Labels.encode (Labels.ofFields s.draft.fields)

/-- The merge tokens, their record and their values. -/
def resolution (s : Session) : Resolution := s.context.resolution

/-- The query that may be run; empty while merge tokens are unresolved. -/
def preview (s : Session) : Except Failure String :=
  s.query.map fun query =>
    Merge.preview query s.resolution.tokens s.resolution.readiness s.resolution.values s.viewer
      s.resolution.record

/-- The fields that the list shows. -/
def shownFields (s : Session) : List Field := s.draft.fields.shown s.draft.fieldFilter

/-- Whether saving is not offered. -/
def saveDisabled (s : Session) : Bool :=
  s.draft.name = "" || s.draft.object = "" || !s.draft.fields.anyVisible

/-- Whether deleting is not offered. -/
def deleteDisabled (s : Session) : Bool := s.draft.configId.getD 0 = 0

/-- The draft as a configuration of the current version. -/
def toConfig (s : Session) : Config :=
  let d := s.draft
  ⟨Config.currentVersion, d.object, d.fields.toList.map Field.toSaved, d.filter, d.limit,
    d.sortField, d.direction, d.display,
    ⟨d.fieldFilter, s.resolution.object, s.context.label, s.context.searchTerm,
      s.resolution.record⟩⟩

/-! ## Changes -/

/-- The session with another resolution. -/
def withResolution (s : Session) (r : Resolution) : Session :=
  { s with context := { s.context with resolution := r } }

/-- The session with other fields. -/
def withFields (s : Session) (fields : FieldList) : Session :=
  { s with draft := { s.draft with fields := fields } }

/-- Look for merge tokens in the query of the draft. Where there is no query to look at, this fails
and the tokens stay as they were. -/
def rescan (s : Session) : Except Failure Unit × Session :=
  match s.query with
  | .ok query => (.ok (), s.withResolution (s.resolution.withQuery query))
  | .error f => (.error f, s)

/-- Start a new draft. -/
def reset (s : Session) : Session :=
  { s with generation := s.generation + 1, draft := .empty, context := .empty }

/-- The session with the draft as an unsaved copy. -/
def copied (s : Session) : Session :=
  let name := if s.draft.name = "" then "" else s.draft.name ++ " (Copy)"
  { s with draft := { s.draft with configId := none, name := name }, context := .empty }

/-- Keep the draft as an unsaved copy. -/
def clone (s : Session) : Except Failure Unit × Session := s.copied.rescan

/-- The name of a field, if the list has it. -/
def known (fields : FieldList) (name : Option String) : Option String :=
  name.filter fields.has

/-- The session with the draft of a configuration. Name and description stay. -/
def configured (s : Session) (c : Config) (fields : FieldList) (id : Option Int) : Session :=
  let draft : Draft :=
    { s.draft with
      configId := id
      object := c.object
      fields := fields
      filter := c.filter
      limit := c.limit
      sortField := known fields c.sortField
      direction := c.sortDirection
      display := c.display
      fieldFilter := c.viewState.fieldFilter }
  let resolution := (Resolution.empty.selectObject c.viewState.contextObject).selectRecord
    c.viewState.contextRecord
  { s with
    draft := draft
    context := { Context.empty with
      resolution := resolution
      label := c.viewState.contextLabel
      searchTerm := c.viewState.searchTerm } }

/-- Take over a configuration with the given fields. -/
def applyConfig (s : Session) (c : Config) (fields : FieldList) (id : Option Int) :
    Except Failure Unit × Session :=
  (s.configured c fields id).rescan

/-- Take over the name and the description of a saved configuration. -/
def applyEntry (s : Session) (entry : SavedConfig) : Session :=
  { s with draft := { s.draft with
    name := entry.name
    description := entry.description.getD "" } }

/-- Take over a configuration as it is, without a look at the schema. -/
def applyDraft (s : Session) (c : Config) : Except Failure Unit × Session :=
  s.applyConfig c (.ofSaved c.fields) none

/-- Take over a saved configuration with the given fields, and then its name and its description. -/
def applySaved (s : Session) (entry : SavedConfig) (fields : FieldList) (id : Option Int) :
    Except Failure Unit × Session :=
  match s.applyConfig entry.config fields id with
  | (.ok (), s) => (.ok (), s.applyEntry entry)
  | (.error f, s) => (.error f, s)

/-- Choose how the table is sorted at first. The field has to be one of the draft, and is taken
over before the direction is looked at. -/
def setDefaultSort (s : Session) (field : Option String) (direction : Value) :
    Except Failure Unit × Session :=
  match (Resolution.given field).filter (!s.draft.fields.has ·) with
  | some name => (.error (.engine (.unknownSortField name)), s)
  | none =>
    let s := { s with draft := { s.draft with sortField := Resolution.given field } }
    match Direction.ofValue direction with
    | .error f => (.error f, s)
    | .ok direction => (.ok (), { s with draft := { s.draft with direction := direction } })

/-- Choose the row limit. -/
def setRowLimit (s : Session) (limit : Value) : Except Failure Unit × Session :=
  match RowLimit.ofValue limit with
  | .ok n => (.ok (), { s with draft := { s.draft with limit := n } })
  | .rejected faults => (.error (.schema faults), s)
  | .overflow message => (.error (.overflow message), s)

/-- Choose which fields the list shows. -/
def setFieldFilter (s : Session) (filter : Value) : Except Failure Unit × Session :=
  match FieldFilter.ofValue filter with
  | .ok f => (.ok (), { s with draft := { s.draft with fieldFilter := f } })
  | .error f => (.error f, s)

/-- Choose what is displayed; what is not given stays. -/
def setDisplay (s : Session) (recordCount search refresh : Option Bool) : Session :=
  let d := s.draft.display
  let display : DisplayOptions :=
    ⟨recordCount.getD d.recordCount, search.getD d.search, refresh.getD d.refresh⟩
  { s with draft := { s.draft with display := display } }

/-- Start to drag a field, if there is one of the name. -/
def startDrag (s : Session) (name : String) : Session :=
  { s with context := { s.context with dragging := known s.draft.fields (some name) } }

/-- Stop dragging. -/
def endDrag (s : Session) : Session :=
  { s with context := { s.context with dragging := none } }

/-- Drop the dragged field next to another one. -/
def dropOn (s : Session) (target : String) (after : Bool) : Session :=
  match Resolution.given s.context.dragging with
  | some moved => s.endDrag.withFields (s.draft.fields.reorder moved target after)
  | none => s.endDrag

/-- Select the context object, closing the list of search results. -/
def selectContextObject (s : Session) (object label : Option String) : Session :=
  { s with context := { s.context with
    label := (Resolution.given label).or object
    showResults := false
    resolution := s.resolution.selectObject object } }

/-- Select the context record. -/
def selectContextRecord (s : Session) (record : Option String) : Session :=
  s.withResolution (s.resolution.selectRecord record)

/-- Forget the context object and record. -/
def clearContext (s : Session) : Session :=
  { s with context := { s.context with resolution := s.resolution.clearContext, label := none } }

/-- Take over the fields of the selected object. A sort field that it does not have is dropped. -/
def takeFields (s : Session) (fields : FieldList) : Session :=
  { s with draft := { s.draft with
    fields := fields
    sortField := known fields s.draft.sortField } }

/-- Empty the field list. There is always a query then, the empty one. -/
def dropFields (s : Session) : Session := (s.withFields .empty).rescan.2

end Session

end TableView.Editor
