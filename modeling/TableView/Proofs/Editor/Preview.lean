import TableView.Api.Body
import TableView.Proofs.Editor.Confluence
import TableView.Proofs.Editor.Limit
import TableView.Proofs.Task.Desk

/-!
# Previews of drafts

To preview a configuration on the page of a record, a session takes it over, selects the record and
fetches what is missing. On the way it may fetch values of another record, the one that was saved
with the configuration, and a fetch that fails is made twice. What remains of all this is the query
with the values that one fetch for the record of the page brings (`preview_of_commands`).
-/

namespace TableView.Editor

open TableView.Number (digitCount maxIntegerDigits)
open TableView.Task (Desk)
open TableView.Task.Desk (Leads)

/-- The fields of a configuration as they are saved, in a query. -/
def savedQuery (c : Config) : String :=
  Query.compile c.object (.ofSaved c.fields) c.filter (RowLimit.ofInt c.limit)

/-- The merge tokens of a query on the page of a record. -/
def selected (query object record : String) : Resolution :=
  ⟨Merge.tokens query, some object, some record, [], none⟩

/-- What is asked for on the page of a record. -/
def pageTicket (c : Config) (object record : String) : Ticket :=
  ⟨some object, record, Merge.tokens (savedQuery c)⟩

private theorem isCurrent_pageTicket (c : Config) (object record : String) :
    (selected (savedQuery c) object record).isCurrent (pageTicket c object record) = true :=
  (Resolution.isCurrent_iff _ _).mpr ⟨rfl, rfl, fun _ h ↦ h⟩

private theorem selected_of_ne_empty {record : String} (hasRecord : record ≠ "")
    (query object : String) : (selected query object record).Selected :=
  ⟨record, (Resolution.given_eq_some_iff _ _).mpr ⟨rfl, hasRecord⟩⟩

/-- The resolution on the page of a record when values have come. -/
def arrived (c : Config) (object record : String) (values : Entries Value) : Resolution :=
  (selected (savedQuery c) object record).settle (pageTicket c object record) (.ok values)

theorem readiness_arrived {c : Config} {record : String} (hasRecord : record ≠ "")
    (tokens : Merge.tokens (savedQuery c) ≠ []) (object : String) (values : Entries Value) :
    (arrived c object record values).readiness = .resolved :=
  Resolution.readiness_settle_ok _ _ values (isCurrent_pageTicket c object record) tokens
    (selected_of_ne_empty hasRecord _ _)

namespace Outcome

variable (outcome : Outcome)

/-- A resolution after the missing values, if there are any, have been fetched. -/
def ensure (r : Resolution) : Resolution :=
  if r.needsFetch then
    match r.begin? with
    | .ok (t, r') => r'.settle t (outcome.of t)
    | .error _ => r
  else r

/-- The preview of a configuration on the page of a record, for a viewer. -/
def preview (c : Config) (object record : String) (viewer : Option String) : String :=
  let r := outcome.ensure (selected (savedQuery c) object record)
  Merge.preview (savedQuery c) r.tokens r.readiness r.values viewer (some record)

variable {outcome} {r : Resolution}

theorem ensure_of_complete (h : r.needsFetch = false) : outcome.ensure r = r := by
  rw [ensure, h, if_neg Bool.false_ne_true]

theorem ensure_of_missing {record : String} (needed : r.needsFetch = true)
    (given : Resolution.given r.record = some record) :
    outcome.ensure r = { r with error := none }.settle ⟨r.object, record, r.tokens⟩
      (outcome r.object record r.tokens) := by
  rw [ensure, needed, if_pos rfl, Resolution.begin?_of_given r record given]
  rfl

private theorem ensure_cases (outcome : Outcome) (r : Resolution) :
    outcome.ensure r = r ∨ ∃ record, r.needsFetch = true ∧ Resolution.given r.record = some record ∧
      outcome.ensure r = { r with error := none }.settle ⟨r.object, record, r.tokens⟩
        (outcome r.object record r.tokens) := by
  cases needed : r.needsFetch with
  | false => exact .inl (ensure_of_complete needed)
  | true =>
    obtain ⟨⟨record, given⟩, -⟩ := (Resolution.needsFetch_iff r).mp needed
    exact .inr ⟨record, rfl, given, ensure_of_missing needed given⟩

theorem ensure_tokens : (outcome.ensure r).tokens = r.tokens := by
  rcases ensure_cases outcome r with same | ⟨record, -, -, fetched⟩
  · rw [same]
  · rw [fetched, Resolution.settle_tokens]

theorem ensure_object : (outcome.ensure r).object = r.object := by
  rcases ensure_cases outcome r with same | ⟨record, -, -, fetched⟩
  · rw [same]
  · rw [fetched, Resolution.settle_object]

theorem ensure_record : (outcome.ensure r).record = r.record := by
  rcases ensure_cases outcome r with same | ⟨record, -, -, fetched⟩
  · rw [same]
  · rw [fetched, Resolution.settle_record]

/-- The fetch that is made is current, so its outcome is taken over. -/
private theorem ensure_eq_with {record : String} (needed : r.needsFetch = true)
    (given : Resolution.given r.record = some record) :
    outcome.ensure r = { r with
      values := Resolution.outcomeValues ⟨r.object, record, r.tokens⟩
        (outcome r.object record r.tokens)
      error := Resolution.outcomeError (outcome r.object record r.tokens) } := by
  have current : { r with error := none }.isCurrent ⟨r.object, record, r.tokens⟩ = true :=
    (Resolution.isCurrent_iff _ _).mpr
      ⟨rfl, ((Resolution.given_eq_some_iff _ _).mp given).1, fun _ h ↦ h⟩
  rw [ensure_of_missing needed given, Resolution.settle_of_current _ _ _ current]

/-- A second fetch leaves what the first one left. -/
theorem ensure_ensure : outcome.ensure (outcome.ensure r) = outcome.ensure r := by
  cases again : (outcome.ensure r).needsFetch with
  | false => exact ensure_of_complete again
  | true =>
    obtain ⟨⟨record, given⟩, -⟩ := (Resolution.needsFetch_iff _).mp again
    cases needed : r.needsFetch with
    | false =>
      rw [ensure_of_complete needed] at again
      exact nomatch needed.symm.trans again
    | true =>
      have given' : Resolution.given r.record = some record := ensure_record ▸ given
      rw [ensure_eq_with again given, ensure_object, ensure_tokens, ensure_eq_with needed given']

/-! ### The preview on the page of a record -/

variable {c : Config} {object record : String} {viewer : Option String}

private theorem ensure_selected (hasRecord : record ≠ "")
    (tokens : Merge.tokens (savedQuery c) ≠ []) :
    outcome.ensure (selected (savedQuery c) object record) =
      (selected (savedQuery c) object record).settle (pageTicket c object record)
        (outcome.of (pageTicket c object record)) := by
  obtain ⟨name, mem⟩ := List.exists_mem_of_ne_nil _ tokens
  have needed : (selected (savedQuery c) object record).needsFetch = true :=
    (Resolution.needsFetch_iff _).mpr ⟨selected_of_ne_empty hasRecord _ _, name, mem, rfl⟩
  exact ensure_of_missing needed ((Resolution.given_eq_some_iff _ _).mpr ⟨rfl, hasRecord⟩)

/-- Without merge tokens there is nothing to fetch. -/
theorem preview_of_no_tokens (tokens : Merge.tokens (savedQuery c) = []) :
    outcome.preview c object record viewer =
      Merge.preview (savedQuery c) [] .noTokens [] viewer (some record) := by
  have complete := Resolution.needsFetch_of_no_tokens (selected (savedQuery c) object record) tokens
  have ready := (Resolution.readiness_eq_noTokens_iff (selected (savedQuery c) object record)).mpr
    tokens
  rw [preview, ensure_of_complete complete, ready]
  rfl

/-- The values that have come are filled in. -/
theorem preview_of_values {values : Entries Value} (hasRecord : record ≠ "")
    (tokens : Merge.tokens (savedQuery c) ≠ [])
    (reply : outcome.of (pageTicket c object record) = .ok values) :
    let r := arrived c object record values
    outcome.preview c object record viewer =
      Merge.preview (savedQuery c) r.tokens r.readiness r.values viewer (some record) := by
  rw [preview, ensure_selected hasRecord tokens, reply]
  rfl

/-- When the values could not be fetched there is no preview. -/
theorem preview_of_failure {f : Failure} (hasRecord : record ≠ "")
    (tokens : Merge.tokens (savedQuery c) ≠ [])
    (reply : outcome.of (pageTicket c object record) = .error f) :
    outcome.preview c object record viewer = "" := by
  have failed := Resolution.readiness_settle_error (selected (savedQuery c) object record) _ f
    (isCurrent_pageTicket c object record) tokens
  rw [preview, ensure_selected hasRecord tokens, reply, failed]
  rfl

end Outcome

/-- A session after the missing values, if there are any, have been fetched. -/
def Session.ensured (outcome : Outcome) (s : Session) : Session :=
  s.withResolution (outcome.ensure s.resolution)

namespace Session

variable (s : Session)

@[simp] theorem ensured_draft (outcome : Outcome) : (s.ensured outcome).draft = s.draft := rfl

@[simp] theorem ensured_viewer (outcome : Outcome) : (s.ensured outcome).viewer = s.viewer := rfl

@[simp] theorem selectContextObject_draft (object label : Option String) :
    (s.selectContextObject object label).draft = s.draft := rfl

@[simp] theorem selectContextObject_viewer (object label : Option String) :
    (s.selectContextObject object label).viewer = s.viewer := rfl

@[simp] theorem selectContextRecord_draft (record : Option String) :
    (s.selectContextRecord record).draft = s.draft := rfl

@[simp] theorem selectContextRecord_viewer (record : Option String) :
    (s.selectContextRecord record).viewer = s.viewer := rfl

end Session

/-! ### Operations that fetch what is missing -/

variable {World : Type} {outside : machine.Outside World} {outcome : Outcome}
  {d : Desk machine World} {s s' : Session} {c : machine.Command} {rest : List machine.Command}

/-- An operation that has nothing to fetch makes no call. -/
theorem run_of_complete (start : machine.start d.state c = s.fetchIfNeeded)
    (complete : s.resolution.needsFetch = false) :
    d.run outside c = ({ d with state := s }, ⟨[], .finished (.ok .done)⟩) := by
  rw [Session.fetchIfNeeded, complete, if_neg Bool.false_ne_true] at start
  exact Desk.run_of_no_call outside start

/-- An operation that has something to fetch asks once, for all merge tokens, and is settled by the
reply, whatever it is. -/
theorem run_of_missing (start : machine.start d.state c = s.fetchIfNeeded) {record : String}
    (needed : s.resolution.needsFetch = true)
    (given : Resolution.given s.resolution.record = some record) :
    let t : Ticket := ⟨s.resolution.object, record, s.resolution.tokens⟩
    let answer := outside d.world (Call.values t.object t.record t.names)
    d.run outside c =
      ({ d with
          state := s.withResolution ({ s.resolution with error := none }.settle t answer.1)
          world := answer.2 },
        ⟨[Call.values t.object t.record t.names], .finished (.ok .done)⟩) := by
  intro t answer
  let begun : Session := s.withResolution { s.resolution with error := none }
  have pending : s.fetchIfNeeded = (begun, .pending (.values t)) := by
    simp only [Session.fetchIfNeeded, needed, ite_true, Session.fetch,
      Resolution.begin?_of_given _ record given]
    rfl
  have resumed : machine.resume begun (.values t) answer.1 =
      (begun.withResolution (begun.resolution.settle t answer.1), .finished (.ok .done)) :=
    begun.resumeValues_state t answer.1
  exact Desk.run_of_single_call outside (start.trans pending) rfl rfl resumed

/-- The values of records come from a fixed source. -/
def Fetches (outside : machine.Outside World) (outcome : Outcome) : Prop :=
  ∀ w object record names,
    (outside w (Call.values object record names)).1 = outcome object record names

private theorem leads_of_finish (start : machine.start d.state c = s.finish)
    (next : ∀ d' : Desk machine World, d'.state = s → Leads outside d' rest s') :
    Leads outside d (c :: rest) s' :=
  Desk.leads_cons outside (Desk.run_of_no_call outside start) (next _ rfl)

private theorem leads_of_fetchIfNeeded (fetches : Fetches outside outcome)
    (start : machine.start d.state c = s.fetchIfNeeded)
    (next : ∀ d' : Desk machine World, d'.state = s.ensured outcome → Leads outside d' rest s') :
    Leads outside d (c :: rest) s' := by
  cases needed : s.resolution.needsFetch with
  | false =>
    rw [Session.ensured, Outcome.ensure_of_complete needed] at next
    exact Desk.leads_cons outside (run_of_complete start needed) (next _ rfl)
  | true =>
    obtain ⟨⟨record, given⟩, -⟩ := (Resolution.needsFetch_iff _).mp needed
    rw [Session.ensured, Outcome.ensure_of_missing needed given] at next
    refine Desk.leads_cons outside (run_of_missing start needed given) (next _ ?_)
    rw [fetches]

/-! ### The operations of a preview -/

/-- The session that has taken over a configuration. -/
def drafted (s : Session) (c : Config) : Session := (s.applyDraft c).2

/-- A session after the record of a page was selected and what is missing was fetched. -/
def placed (outcome : Outcome) (s : Session) (object record : String) : Session :=
  let s := (s.selectContextObject (some object) none).ensured outcome
  ((s.selectContextRecord (some record)).ensured outcome).ensured outcome

/-- The session that the operations of a preview leave. -/
def previewed (outcome : Outcome) (s : Session) (c : Config) (object record : String) : Session :=
  placed outcome (drafted s c) object record

/-- Whatever was fetched before, the record of the page is selected with nothing known of it, and
then what is missing is fetched. -/
private theorem resolution_placed (outcome : Outcome) (s : Session) {object record : String}
    (hasObject : object ≠ "") (hasRecord : record ≠ "") :
    (placed outcome s object record).resolution =
      outcome.ensure ⟨s.resolution.tokens, some object, some record, [], none⟩ := by
  have object' : Resolution.given (some object) = some object :=
    (Resolution.given_eq_some_iff _ _).mpr ⟨rfl, hasObject⟩
  have record' : Resolution.given (some record) = some record :=
    (Resolution.given_eq_some_iff _ _).mpr ⟨rfl, hasRecord⟩
  let r := s.resolution.selectObject (some object)
  have picked : (outcome.ensure r).selectRecord (some record) =
      ⟨s.resolution.tokens, some object, some record, [], none⟩ := by
    simp only [Resolution.selectRecord, Resolution.cleared, Outcome.ensure_tokens,
      Outcome.ensure_object, record']
    change (⟨s.resolution.tokens, Resolution.given (some object), _, _, _⟩ : Resolution) = _
    rw [object']
  change outcome.ensure (outcome.ensure ((outcome.ensure r).selectRecord (some record))) = _
  rw [picked, Outcome.ensure_ensure]

private theorem draft_placed (outcome : Outcome) (s : Session) (object record : String) :
    (placed outcome s object record).draft = s.draft := by
  simp only [placed, Session.ensured_draft, Session.selectContextRecord_draft,
    Session.selectContextObject_draft]

private theorem viewer_placed (s : Session) (object record : String) :
    (placed outcome s object record).viewer = s.viewer := by
  simp only [placed, Session.ensured_viewer, Session.selectContextRecord_viewer,
    Session.selectContextObject_viewer]

section

variable {c : Config} (written : digitCount c.limit ≤ maxIntegerDigits)
include written

/-- A configuration whose row limit can be written is taken over with the tokens of its query. -/
theorem applyDraft_of_written (s : Session) :
    s.applyDraft c = (.ok (), (s.configured c (.ofSaved c.fields) none).withResolution
      ((s.configured c (.ofSaved c.fields) none).resolution.withQuery (savedQuery c))) :=
  Session.rescan_of_ok (Session.query_of_limit written)

private theorem start_applyDraft (s : Session) :
    machine.start s (Command.applyDraft c) = (drafted s c).finish := by
  change Session.conclude (s.applyDraft c) = (s.applyDraft c).2.finish
  rw [applyDraft_of_written written]
  rfl

private theorem query_drafted (s : Session) : (drafted s c).query = .ok (savedQuery c) := by
  rw [drafted, applyDraft_of_written written]
  exact Session.query_of_limit written

private theorem tokens_drafted (s : Session) :
    (drafted s c).resolution.tokens = Merge.tokens (savedQuery c) := by
  rw [drafted, applyDraft_of_written written]
  rfl

private theorem viewer_drafted (s : Session) : (drafted s c).viewer = s.viewer := by
  rw [drafted, applyDraft_of_written written]
  rfl

private theorem preview_previewed (s : Session) {object record : String}
    (hasObject : object ≠ "") (hasRecord : record ≠ "") :
    (previewed outcome s c object record).preview =
      .ok (outcome.preview c object record s.viewer) := by
  have resolution := resolution_placed outcome (drafted s c) hasObject hasRecord
  rw [tokens_drafted written] at resolution
  have query := query_drafted written s
  rw [Session.query, ← draft_placed outcome _ object record] at query
  rw [previewed, Session.preview, Session.query, query, resolution, viewer_placed,
    viewer_drafted written, Outcome.ensure_record]
  rfl

/-- To preview a configuration on the page of a record ends well, if its row limit can be written,
and leaves its query with what one fetch for that record brings. -/
theorem preview_of_commands (fetches : Fetches outside outcome) (d : Desk machine World)
    {object record : String} (hasObject : object ≠ "") (hasRecord : record ≠ "") :
    Leads outside d (Api.PreviewBody.commands ⟨c, some object, some record⟩)
        (previewed outcome d.state c object record) ∧
      (previewed outcome d.state c object record).preview =
        .ok (outcome.preview c object record d.state.viewer) := by
  refine ⟨?_, preview_previewed written d.state hasObject hasRecord⟩
  refine leads_of_finish (start_applyDraft written d.state) fun d₁ drafted ↦ ?_
  refine leads_of_fetchIfNeeded fetches (congrArg (machine.start · _) drafted) fun d₂ placed ↦ ?_
  refine leads_of_fetchIfNeeded fetches (congrArg (machine.start · _) placed) fun d₃ picked ↦ ?_
  refine leads_of_fetchIfNeeded fetches (congrArg (machine.start · _) picked) fun d₄ ensured ↦ ?_
  exact Desk.leads_nil outside ensured

end

end TableView.Editor
