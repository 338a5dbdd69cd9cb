import TableView.Proofs.Editor.Preview
import TableView.Proofs.Panel.Columns

/-!
# Previews and renderings

A panel that renders a stored configuration on the page of a record and a session that previews it
there build the same query in different ways: the panel scans the query of the configuration and
fetches once, the session goes through what was saved of its last edit. Both come to the query with
the values of that record (`executed_of_renderConfig`, `Editor.preview_of_commands`). So the panel
runs exactly the query that the session previews, and none if there is no preview
(`executed_of_stored`).
-/

namespace TableView

/-- A query starts with its keyword. -/
theorem Query.head?_compile {object filter : String} {fields : FieldList} {limit : Nat}
    (h : compile object fields filter limit ≠ "") :
    (compile object fields filter limit).toList.head? = some 'S' := by
  rw [compile] at h ⊢
  split
  · simp only [text, String.toList_append, List.append_assoc]
    rfl
  · next none =>
    rw [if_neg none] at h
    exact absurd rfl h

namespace Panel

open TableView.Number (digitCount maxIntegerDigits)
open TableView.Task (Desk Report)
open TableView.Editor (Outcome arrived pageTicket savedQuery selected)

/-- The query that a call runs. -/
def query? : machine.Call → Option String
  | Call.execute query => some query
  | Call.config _ | Call.values _ _ _ => none

/-- The queries that an operation has run. -/
def executed (report : Report machine) : List String := report.calls.filterMap query?

/-- A preview as a list: none if it is empty. -/
def runnable (preview : String) : List String := if preview = "" then [] else [preview]

variable {World : Type} {outside : machine.Outside World} {outcome : Outcome}
  {d : Desk machine World} {s : State} {fuel : Nat}

/-- The values of records come from a fixed source. -/
def Fetches (outside : machine.Outside World) (outcome : Outcome) : Prop :=
  ∀ w object record names,
    (outside w (Call.values object record names)).1 = outcome object record names

/-! ### The queries of suspended renderings -/

/-- The queries that an operation runs from a stage on. -/
private def queries (outside : machine.Outside World) (fuel : Nat) (d : Desk machine World)
    (stage : machine.Stage) : List String :=
  executed (Desk.settle outside fuel d stage).2

private theorem queries_finished (r : Except Failure machine.Result) :
    queries outside fuel d (.finished r) = [] := by
  rw [queries, Desk.settle_finished]
  rfl

/-- The query of the next call comes first, and then those of what comes after the reply. -/
private theorem queries_pending (fuel : Nat) {p : machine.Suspension}
    {reply : machine.Reply (machine.call p)} {s' : machine.State} {stage : machine.Stage}
    (answer : (outside d.world (machine.call p)).1 = reply)
    (resume : machine.resume d.state p reply = (s', stage)) :
    ∃ d' : Desk machine World, d'.state = s' ∧ queries outside (fuel + 1) d (.pending p) =
      (query? (machine.call p)).toList ++ queries outside fuel d' stage := by
  let d' : Desk machine World :=
    { d with state := s', world := (outside d.world (machine.call p)).2 }
  refine ⟨d', rfl, ?_⟩
  have settled := Desk.settle_of_reply outside fuel (Prod.ext answer rfl) resume
  have calls : (Desk.settle outside (fuel + 1) d (.pending p)).2.calls =
      machine.call p :: (Desk.settle outside fuel d' stage).2.calls :=
    congrArg (fun ending ↦ ending.2.calls) settled
  rw [queries, executed, calls, List.filterMap_cons]
  cases query? (machine.call p) with
  | none => rfl
  | some query => rfl

private theorem resume_execution (s : State) (generation : Nat) (query : String)
    (sort : Option (String × Direction)) (reply : Except Failure QueryResult) :
    ∃ t r, machine.resume s (Suspension.execution generation query sort) reply =
      (t, .finished r) := by
  change ∃ t r, s.resumeExecution generation query sort reply = (t, .finished r)
  cases reply with
  | ok result => exact ⟨_, _, rfl⟩
  | error f =>
    cases f with
    | engine e =>
      simp only [State.resumeExecution]
      split
      · exact ⟨_, _, rfl⟩
      · exact ⟨_, _, rfl⟩
    | _ => exact ⟨_, _, rfl⟩

/-- The query that is being run is the last one. -/
private theorem queries_execution (generation : Nat) (query : String)
    (sort : Option (String × Direction)) :
    queries outside (fuel + 1) d (.pending (Suspension.execution generation query sort)) =
      [query] := by
  obtain ⟨t, r, ended⟩ := resume_execution d.state generation query sort
    (outside d.world (Call.execute query)).1
  obtain ⟨d', -, next⟩ := queries_pending fuel rfl ended
  rw [next, queries_finished]
  rfl

/-! ### A configuration on the page of a record -/

section Page

variable {c : Config} {object record : String} {viewer : Option String}

/-- The panel asks for the values of the record of the page. -/
private theorem fetch_of_page (hasObject : object ≠ "") (hasRecord : record ≠ "")
    (generation : Nat) :
    s.fetch generation c (savedQuery c) (Resolution.empty.withQuery (savedQuery c))
        ⟨some record, some object, viewer⟩ =
      ({ s with loading := true }, .pending (.values generation c (savedQuery c)
        (selected (savedQuery c) object record) (pageTicket c object record)
        ⟨some record, some object, viewer⟩)) := by
  have object' : Resolution.given (some object) = some object :=
    (Resolution.given_eq_some_iff _ _).mpr ⟨rfl, hasObject⟩
  have record' : Resolution.given (some record) = some record :=
    (Resolution.given_eq_some_iff _ _).mpr ⟨rfl, hasRecord⟩
  simp only [State.fetch, object', record', Resolution.selectRecord, Resolution.selectObject,
    Resolution.cleared, Resolution.begin?]
  rfl

/-- A query whose tokens are resolved is there to be run. -/
private theorem runnable_preview {query : String} (possible : query.toList.head? = some 'S')
    (tokens : List String) {state : Readiness} (values : Entries Value)
    (viewer record : Option String) (known : state = .noTokens ∨ state = .resolved) :
    runnable (Merge.preview query tokens state values viewer record) =
      [Merge.preview query tokens state values viewer record] :=
  if_neg ((Merge.preview_ne_empty_iff possible (by decide)).mpr known)

/-- The panel goes on with the values of the record of the page. -/
private theorem queries_values (fetches : Fetches outside outcome) (hasRecord : record ≠ "")
    (tokens : Merge.tokens (savedQuery c) ≠ []) (possible : (savedQuery c).toList.head? = some 'S')
    (fuel generation : Nat) (latest : State.generation d.state = generation) :
    queries outside (fuel + 2) d (.pending (Suspension.values generation c (savedQuery c)
        (selected (savedQuery c) object record) (pageTicket c object record)
        ⟨some record, some object, viewer⟩)) =
      runnable (outcome.preview c object record viewer) := by
  let p : machine.Suspension := Suspension.values generation c (savedQuery c)
    (selected (savedQuery c) object record) (pageTicket c object record)
    ⟨some record, some object, viewer⟩
  have answer : (outside d.world (machine.call p)).1 = outcome.of (pageTicket c object record) :=
    fetches d.world (some object) record (Merge.tokens (savedQuery c))
  cases reply : outcome.of (pageTicket c object record) with
  | error f =>
    rw [Outcome.preview_of_failure hasRecord tokens reply]
    obtain ⟨d', -, next⟩ := queries_pending (fuel + 1) (answer.trans reply) (Prod.ext rfl rfl)
    exact next.trans (queries_finished _)
  | ok values =>
    have resumed : machine.resume d.state p (.ok values) =
        State.executeResolved { d.state with loading := false } generation c (savedQuery c)
          (arrived c object record values) ⟨some record, some object, viewer⟩ := if_pos latest
    have ready := Editor.readiness_arrived hasRecord tokens object values
    rw [Outcome.preview_of_values hasRecord tokens reply,
      runnable_preview possible _ _ viewer _ (.inr ready)]
    obtain ⟨d', -, next⟩ := queries_pending (fuel + 1) (answer.trans reply) resumed
    exact next.trans (queries_execution generation _ _)

private theorem renderLoaded_of_no_tokens (written : digitCount c.limit ≤ maxIntegerDigits)
    (shown : (FieldList.ofSaved c.fields).anyVisible = true)
    (tokens : Merge.tokens (savedQuery c) = []) (generation : Nat) (page : Page) :
    ∃ t : State, s.renderLoaded generation c page = (t, .pending (.execution generation
      (Merge.preview (savedQuery c) [] .noTokens [] page.viewer page.record)
      (State.wantedSort c))) := by
  have ready := (Resolution.readiness_eq_noTokens_iff
    (Resolution.empty.withQuery (savedQuery c))).mpr tokens
  unfold savedQuery at ready ⊢
  unfold State.renderLoaded
  dsimp only
  rw [shown, Bool.not_true, if_neg Bool.false_ne_true, Query.compileWith_of_written written]
  dsimp only
  rw [if_pos ready, State.executeResolved, ready]
  exact ⟨_, rfl⟩

private theorem renderLoaded_of_tokens (written : digitCount c.limit ≤ maxIntegerDigits)
    (shown : (FieldList.ofSaved c.fields).anyVisible = true)
    (tokens : Merge.tokens (savedQuery c) ≠ []) (generation : Nat) (page : Page) :
    s.renderLoaded generation c page =
      State.fetch { s with labels := Labels.ofFields (.ofSaved c.fields) } generation c
        (savedQuery c) (Resolution.empty.withQuery (savedQuery c)) page := by
  have unready := (Resolution.readiness_eq_noTokens_iff
    (Resolution.empty.withQuery (savedQuery c))).not.mpr tokens
  unfold savedQuery at unready ⊢
  unfold State.renderLoaded
  dsimp only
  rw [shown, Bool.not_true, if_neg Bool.false_ne_true, Query.compileWith_of_written written]
  exact if_neg unready

private theorem preview_of_hidden (hidden : savedQuery c = "") :
    outcome.preview c object record viewer = "" := by
  rw [Outcome.preview_of_no_tokens (hidden ▸ Merge.tokens_empty), hidden]
  cases viewer with
  | none => rfl
  | some id => rfl

/-- Once the configuration has come, the panel runs the preview of it, if there is one. -/
private theorem queries_renderLoaded (fetches : Fetches outside outcome) (named : c.object ≠ "")
    (written : digitCount c.limit ≤ maxIntegerDigits) (hasObject : object ≠ "")
    (hasRecord : record ≠ "") (fuel : Nat)
    (loaded : d.state = (s.renderLoaded s.generation c ⟨some record, some object, viewer⟩).1) :
    queries outside (fuel + 2) d
        (s.renderLoaded s.generation c ⟨some record, some object, viewer⟩).2 =
      runnable (outcome.preview c object record viewer) := by
  have visible : savedQuery c ≠ "" ↔ _ :=
    Query.compile_ne_empty_iff named (FieldList.ofSaved c.fields) c.filter _
  cases shown : (FieldList.ofSaved c.fields).anyVisible with
  | false =>
    have hidden : savedQuery c = "" :=
      Decidable.byContradiction fun some ↦ Bool.false_ne_true (shown.symm.trans (visible.mp some))
    rw [renderLoaded_of_hidden shown, preview_of_hidden hidden]
    exact queries_finished _
  | true =>
    have possible : (savedQuery c).toList.head? = some 'S' :=
      Query.head?_compile (visible.mpr shown)
    by_cases tokens : Merge.tokens (savedQuery c) = []
    · obtain ⟨t, rendered⟩ := renderLoaded_of_no_tokens written shown tokens s.generation
        ⟨some record, some object, viewer⟩
      rw [rendered, Outcome.preview_of_no_tokens tokens,
        runnable_preview possible _ _ viewer _ (.inl rfl)]
      exact queries_execution _ _ _
    · rw [renderLoaded_of_tokens written shown tokens,
        fetch_of_page hasObject hasRecord] at loaded ⊢
      have latest : State.generation d.state = s.generation := by rw [loaded]
      exact queries_values fetches hasRecord tokens possible fuel s.generation latest

/-- The queries that a panel runs to render a configuration whose row limit can be written. -/
theorem executed_of_renderConfig (fetches : Fetches outside outcome) {name : String}
    (called : name ≠ "") (answer : (outside d.world (Call.config name)).1 = .ok c)
    (named : c.object ≠ "") (written : digitCount c.limit ≤ maxIntegerDigits)
    (hasObject : object ≠ "") (hasRecord : record ≠ "") :
    executed (d.run outside (Command.renderConfig (some name)
        ⟨some record, some object, viewer⟩)).2 =
      runnable (outcome.preview c object record viewer) := by
  obtain ⟨t, start⟩ := start_renderConfig called d.state ⟨some record, some object, viewer⟩
  have resumed := resume_config t name ⟨some record, some object, viewer⟩ c
  obtain ⟨d', loaded, next⟩ := queries_pending (d := { d with state := t }) 2 answer resumed
  rw [Desk.run_of_start outside start]
  refine next.trans ?_
  exact queries_renderLoaded (s := { t with loading := false }) fetches named written hasObject
    hasRecord 0 loaded

end Page

end Panel

/-! ### Stored configurations -/

namespace Store

open TableView.Task (Desk)
open TableView.Editor (Outcome)

/-- A stored configuration is previewed and rendered on the page of one record, for one viewer,
with the values of one source. The preview ends well, and the panel runs the query that is
previewed, or none if there is no preview. -/
theorem executed_of_stored {calls : List Call} (valid : ∀ call ∈ calls, call.Valid)
    {r : StoredConfig} (mem : r ∈ (empty.after calls).rows) (active : r.active = true)
    {object record : String} (hasObject : object ≠ "") (hasRecord : record ≠ "")
    (outcome : Outcome) :
    ∃ c, r.config = .ok c ∧ ∀ {V W : Type} (builder : Editor.machine.Outside V)
      (panel : Panel.machine.Outside W) (d : Desk Editor.machine V) (e : Desk Panel.machine W),
      Editor.Fetches builder outcome → Panel.Fetches panel outcome →
      (panel e.world (Panel.Call.config r.name)).1 = (empty.after calls).loadByName r.name →
      ∃ s text, Desk.Leads builder d (Api.PreviewBody.commands ⟨c, some object, some record⟩) s ∧
        Editor.Session.preview s = .ok text ∧
        Panel.executed (e.run panel (Panel.Command.renderConfig (some r.name)
          ⟨some record, some object, Editor.Session.viewer d.state⟩)).2 =
            if text = "" then [] else [text] := by
  have sound := sound_empty.after valid
  have kept := sound.rows r mem
  obtain ⟨c, read, -, -, named, -, written⟩ := kept.config
  have loaded : (empty.after calls).loadByName r.name = .ok c :=
    (sound.loadByName_of_row mem active).trans read
  refine ⟨c, read, fun {V W} builder panel d e builds renders answer ↦ ?_⟩
  obtain ⟨leads, preview⟩ := Editor.preview_of_commands written builds d hasObject hasRecord
  refine ⟨_, _, leads, preview, ?_⟩
  rw [Panel.executed_of_renderConfig renders kept.name_ne_empty (answer.trans loaded) named written
    hasObject hasRecord]
  rfl

/-- A configuration whose filter asks for a field of the record, and that was last edited on the
page of another record. -/
def colleagues : NewConfig :=
  ⟨"Colleagues", none, { single "Contact" 50 with
    filter := "WHERE Company = $record.Name AND Owner = $CurrentUserId"
    viewState := { ViewState.initial with
      contextObject := some "Account"
      contextRecord := some "001B" } }, none⟩

private theorem valid_colleagues : ∀ call ∈ [Call.create colleagues], call.Valid := by
  decide +kernel

private theorem after_colleagues :
    empty.after [.create colleagues] = ⟨[empty.newRow colleagues]⟩ :=
  after_create (by decide +kernel)

private theorem config_colleagues :
    (empty.newRow colleagues).config = .ok colleagues.config.current :=
  Config.read_print_current colleagues.config (by decide) (by decide +kernel)

/-- A source with a single record. -/
def acme : Outcome := fun _ record _ ↦
  if record = "001A" then .ok [("Name", .text "Acme")]
  else .error (.engine (.reported .resolution "No such record"))

/-- A world that never changes, in which there is nothing but a source of values. -/
def editorWorld : Editor.machine.Outside Unit
  | w, Editor.Call.values object record names => (acme object record names, w)
  | w, _ => (.error (.badState "Not to be had"), w)

/-- A world that never changes, with stored configurations, a source of values and no rows. -/
def panelWorld : Panel.machine.Outside Unit
  | w, Panel.Call.config name => ((empty.after [.create colleagues]).loadByName name, w)
  | w, Panel.Call.values object record names => (acme object record names, w)
  | w, Panel.Call.execute _ => (.ok ⟨[], []⟩, w)

private theorem panelWorld_config (w : Unit) (name : String) :
    (panelWorld w (Panel.Call.config name)).1 =
      (empty.after [.create colleagues]).loadByName name := rfl

/-- A desk with a blank panel. -/
def panelDesk : Desk Panel.machine Unit := ⟨Panel.State.initial, (), []⟩

/-- A desk with the session of a viewer. -/
def editorDesk : Desk Editor.machine Unit := ⟨Editor.Session.initial (some "u1"), (), []⟩

/-- The stored configuration is rendered on the page of a record, with a value of that record. -/
theorem executed_of_colleagues : (∀ call ∈ [Call.create colleagues], call.Valid) ∧
    empty.newRow colleagues ∈ (empty.after [.create colleagues]).rows ∧
    Panel.executed (panelDesk.run panelWorld (Panel.Command.renderConfig (some "Colleagues")
      ⟨some "001A", some "Account", some "u1"⟩)).2 =
        ["SELECT Id FROM Contact WHERE Company = 'Acme' AND Owner = 'u1' LIMIT 50"] := by
  have mem : empty.newRow colleagues ∈ (empty.after [.create colleagues]).rows := by
    rw [after_colleagues]
    exact List.mem_singleton_self _
  have hasObject : "Account" ≠ "" := by decide
  have hasRecord : "001A" ≠ "" := by decide
  obtain ⟨c, read, runs⟩ := executed_of_stored valid_colleagues mem rfl hasObject hasRecord acme
  cases Except.ok.inj (read.symm.trans config_colleagues)
  obtain ⟨s, text, leads, preview, executed⟩ := runs editorWorld panelWorld editorDesk panelDesk
    (fun _ _ _ _ ↦ rfl) (fun _ _ _ _ ↦ rfl) (panelWorld_config _ _)
  have shown : Editor.Session.preview s =
      .ok "SELECT Id FROM Contact WHERE Company = 'Acme' AND Owner = 'u1' LIMIT 50" := by
    rw [← leads.state]
    decide +kernel
  rw [← Except.ok.inj (shown.symm.trans preview)] at executed
  exact ⟨valid_colleagues, mem, executed⟩

end Store

end TableView
