import TableView.Api.World
import TableView.Proofs.Editor.Preview

/-!
# Lookups of a preview

To preview a draft, a session takes it over, selects the context object and the context record as
far as they are given, and in the end fetches what is missing. Each of these steps looks up the
values of the record that is selected by then, if any is missing, and none of them knows of a lookup
that has failed before. So a lookup that fails is made again exactly if a selection made it and the
object and the record it was made for are those that the preview ends with (`lookup_retried_iff`).
Nothing has to be selected in between for that (`exists_lookup_retried`).
-/

namespace TableView.Api.PreviewBody

/-- The operations of a preview without the last one, which fetches what is missing. -/
def selections (b : PreviewBody) : List Editor.Command :=
  [.applyDraft b.config] ++
    b.contextObject.toList.map (fun object => .selectContextObject (some object) none) ++
    b.contextRecord.toList.map (fun record => .selectContextRecord (some record))

end TableView.Api.PreviewBody

namespace TableView.Editor

open TableView.Task (Desk)
open TableView.Task.Desk (Passes runAll)

/-- What values were asked for, and the reply. -/
structure Lookup where
  ticket : Ticket
  reply : Except Failure (Entries Value)

namespace Lookup

/-- The values could not be had. -/
def Failed (l : Lookup) : Prop := ∃ f, l.reply = .error f

/-- The values are those of the object and the record that are selected. -/
def IsFor (l : Lookup) (r : Resolution) : Prop :=
  l.ticket.object = r.object ∧ r.record = some l.ticket.record

theorem isFor_congr {l m : Lookup} {r r' : Resolution} (ticket : m.ticket = l.ticket)
    (object : r'.object = r.object) (record : r'.record = r.record) :
    m.IsFor r' ↔ l.IsFor r := by
  rw [IsFor, IsFor, ticket, object, record]

/-- The lookups among the calls to the outside. -/
def ofCall : (c : Call) → c.Reply → List Lookup
  | .values object record names, reply => [⟨⟨object, record, names⟩, reply⟩]
  | _, _ => []

end Lookup

section Logs

variable {World : Type} (outside : machine.Outside World)

/-- A world with a log of the lookups that it has answered, the latest at the end. -/
def logged : machine.Outside (World × List Lookup) := fun v c ↦
  let (reply, w) := outside v.1 c
  (reply, w, v.2 ++ Lookup.ofCall c reply)

/-- The lookups that are made when operations are run in a session, one after another. -/
def lookups (w : World) (s : Session) (cs : List machine.Command) : List Lookup :=
  (runAll (logged outside) ⟨s, (w, []), []⟩ cs).1.world.2

/-- The log changes nothing of what is run. -/
theorem runAll_logged (w : World) (s : Session) (cs : List machine.Command) :
    (runAll (logged outside) ⟨s, (w, []), []⟩ cs).1.state =
      (runAll outside ⟨s, w, []⟩ cs).1.state := by
  have same : Desk.Extends outside (logged outside) Prod.fst := fun _ _ ↦ ⟨rfl, rfl⟩
  have seen := Desk.runAll_seen same ⟨s, (w, []), []⟩ cs
  exact (congrArg (fun x ↦ x.1.state) seen).symm

end Logs

/-- A lookup is made again after it has failed. -/
def Retried (log : List Lookup) : Prop :=
  ∃ before l after, log = before ++ l :: after ∧ l.Failed ∧ ∃ m ∈ after, m.ticket = l.ticket

/-! ### One step -/

/-- What is missing is fetched: nothing, or the values of all merge tokens in one lookup, of which
the reply is taken over. -/
inductive Fetching (r : Resolution) : Resolution → List Lookup → Prop
  | complete (h : r.needsFetch = false) : Fetching r r []
  | missing {record : String} (needed : r.needsFetch = true)
    (given : Resolution.given r.record = some record) (reply : Except Failure (Entries Value)) :
    Fetching r ({ r with error := none }.settle ⟨r.object, record, r.tokens⟩ reply)
      [⟨⟨r.object, record, r.tokens⟩, reply⟩]

variable {r r' : Resolution} {log found : List Lookup}

theorem Fetching.length_le (h : Fetching r r' found) : found.length ≤ 1 := by
  cases h with
  | complete => exact Nat.zero_le 1
  | missing => exact Nat.le_refl 1

/-- The reply to a lookup is always taken over. -/
private theorem settle_missing {record : String}
    (given : Resolution.given r.record = some record) (reply : Except Failure (Entries Value)) :
    { r with error := none }.settle ⟨r.object, record, r.tokens⟩ reply =
      { r with
        values := Resolution.outcomeValues ⟨r.object, record, r.tokens⟩ reply
        error := Resolution.outcomeError reply } :=
  Resolution.settle_of_current _ _ _ ((Resolution.isCurrent_iff _ _).mpr
    ⟨rfl, ((Resolution.given_eq_some_iff _ _).mp given).1, fun _ h ↦ h⟩)

/-- A resolution and the lookups that led to it: all were made for its merge tokens and all but the
first for what is still selected, values are there only if the last lookup brought them, and an
error only where they are missing. -/
structure Traced (r : Resolution) (log : List Lookup) : Prop where
  asked : ∀ l ∈ log, l.ticket.names = r.tokens ∧ l.ticket.record ≠ "" ∧ r.tokens ≠ []
  later : ∀ l ∈ log.tail, l.IsFor r
  values : r.values = [] ∨ ∃ before l, log = before ++ [l] ∧ ¬ l.Failed ∧ l.IsFor r
  error : r.error = none ∨ r.needsFetch = true

/-- A selection forgets values and error. -/
theorem Traced.of_blank (traced : Traced r log) (short : log.length ≤ 1)
    (tokens : r'.tokens = r.tokens) (blank : r'.Blank) : Traced r' log := by
  refine ⟨tokens ▸ traced.asked, fun l mem ↦ ?_, .inl blank.1, .inl blank.2⟩
  have none : log.tail = [] := List.eq_nil_of_length_eq_zero (by rw [List.length_tail]; omega)
  rw [none] at mem
  cases mem

/-- Without values, a lookup for what is selected is one that is needed. -/
private theorem Traced.needsFetch (traced : Traced r log) {l : Lookup} (mem : l ∈ log)
    (selected : l.IsFor r) (blank : r.values = []) : r.needsFetch = true := by
  obtain ⟨-, record, tokens⟩ := traced.asked l mem
  obtain ⟨name, hn⟩ := List.exists_mem_of_ne_nil _ tokens
  refine (Resolution.needsFetch_iff r).mpr ⟨⟨l.ticket.record, ?_⟩, name, hn, ?_⟩
  · exact (Resolution.given_eq_some_iff _ _).mpr ⟨selected.2, record⟩
  · rw [blank]
    rfl

theorem Traced.fetching (traced : Traced r log) (fetched : Fetching r r' found) :
    Traced r' (log ++ found) := by
  cases fetched with
  | complete => rwa [List.append_nil]
  | @missing record needed given reply =>
    rw [settle_missing given]
    obtain ⟨selected, name, hn, -⟩ := (Resolution.needsFetch_iff r).mp needed
    obtain ⟨same, record'⟩ := (Resolution.given_eq_some_iff _ _).mp given
    constructor
    · intro l mem
      rcases List.mem_append.mp mem with old | new
      · exact traced.asked l old
      · cases List.mem_singleton.mp new
        exact ⟨rfl, record', List.ne_nil_of_mem hn⟩
    · intro l mem
      cases log with
      | nil => cases mem
      | cons first rest =>
        rcases List.mem_append.mp mem with old | new
        · exact traced.later l old
        · cases List.mem_singleton.mp new
          exact ⟨rfl, same⟩
    · cases reply with
      | error f => exact .inl rfl
      | ok values => exact .inr ⟨log, _, rfl, nofun, rfl, same⟩
    · cases reply with
      | error f => exact .inr ((Resolution.needsFetch_iff _).mpr ⟨selected, name, hn, rfl⟩)
      | ok values => exact .inl rfl

/-- Two lookups for what is selected are the same. -/
private theorem Traced.ticket_eq (traced : Traced r log) {l m : Lookup} (hl : l ∈ log)
    (hm : m ∈ log) (one : l.IsFor r) (other : m.IsFor r) : m.ticket = l.ticket := by
  have object : m.ticket.object = l.ticket.object := other.1.trans one.1.symm
  have record : m.ticket.record = l.ticket.record := Option.some.inj (other.2.symm.trans one.2)
  have names : m.ticket.names = l.ticket.names :=
    (traced.asked m hm).1.trans (traced.asked l hl).1.symm
  rcases l with ⟨⟨_, _, _⟩, _⟩
  rcases m with ⟨⟨_, _, _⟩, _⟩
  cases object
  cases record
  cases names
  rfl

/-! ### The last step -/

private theorem Retried.concat {l m : Lookup} (mem : l ∈ log) (failed : l.Failed)
    (same : m.ticket = l.ticket) : Retried (log ++ [m]) := by
  obtain ⟨before, after, rfl⟩ := List.append_of_mem mem
  refine ⟨before, l, after ++ [m], ?_, failed, m, List.mem_append_right _ List.mem_cons_self, same⟩
  rw [List.append_assoc, List.cons_append]

/-- What is followed by something stands before a last part of one. -/
private theorem mem_of_followed {before after : List Lookup} {l m : Lookup}
    (same : log ++ found = before ++ l :: after) (short : found.length ≤ 1) (more : m ∈ after) :
    l ∈ log := by
  have place : before.length < log.length := by
    have total := congrArg List.length same
    have some := List.length_pos_of_mem more
    simp only [List.length_append, List.length_cons] at total
    omega
  have found' : (log ++ found)[before.length]? = some l := by
    rw [same, List.getElem?_append_right (Nat.le_refl _), Nat.sub_self]
    rfl
  rw [List.getElem?_append_left place] at found'
  exact List.mem_of_getElem? found'

/-- When what is missing is fetched after some lookups, those that have failed for what is selected
are made again, and no others are. -/
theorem Traced.retried_iff (traced : Traced r log) (fetched : Fetching r r' found) :
    Retried (log ++ found) ↔ ∃ l ∈ log, l.Failed ∧ l.IsFor r' := by
  have traced' := traced.fetching fetched
  constructor
  · rintro ⟨before, l, after, same, failed, m, mem, ticket⟩
    refine ⟨l, mem_of_followed same fetched.length_le mem, failed, ?_⟩
    have later : m ∈ (log ++ found).tail := by
      rw [same]
      cases before with
      | nil => exact mem
      | cons b before => exact List.mem_append_right _ (List.mem_cons_of_mem _ mem)
    exact (Lookup.isFor_congr ticket rfl rfl).mp (traced'.later m later)
  · rintro ⟨l, mem, failed, selected⟩
    have mem' : l ∈ log ++ found := List.mem_append_left _ mem
    cases fetched with
    | complete complete =>
      rw [List.append_nil]
      rcases traced.values with blank | ⟨first, k, rfl, values, selected'⟩
      · rw [traced.needsFetch mem selected blank] at complete
        cases complete
      · have last : k ∈ first ++ [k] := List.mem_append_right _ List.mem_cons_self
        have earlier : l ∈ first := by
          rcases List.mem_append.mp mem with earlier | same
          · exact earlier
          · cases List.mem_singleton.mp same
            exact absurd failed values
        exact .concat earlier failed (traced.ticket_eq mem last selected selected')
    | missing needed given reply =>
      refine .concat mem failed (traced'.ticket_eq mem'
        (List.mem_append_right _ (List.mem_singleton_self _)) selected ?_)
      rw [settle_missing given]
      exact ⟨rfl, ((Resolution.given_eq_some_iff _ _).mp given).1⟩

/-- When what is missing has been fetched, the merge tokens have failed exactly if the last lookup
has, and for what is selected. -/
theorem Traced.failed_iff (traced : Traced r log) (fetched : Fetching r r' found) :
    r'.readiness = .failed ↔
      ∃ l, (log ++ found).getLast? = some l ∧ l.Failed ∧ l.IsFor r' := by
  cases fetched with
  | complete complete =>
    rw [List.append_nil]
    constructor
    · intro failed
      obtain ⟨-, error⟩ := (Resolution.readiness_eq_failed_iff r).mp failed
      rcases traced.error with none | needed
      · rw [none] at error
        exact absurd rfl error
      · rw [needed] at complete
        cases complete
    · rintro ⟨l, last, failed, selected⟩
      rcases traced.values with blank | ⟨first, k, rfl, values, -⟩
      · rw [traced.needsFetch (List.mem_of_getLast? last) selected blank] at complete
        cases complete
      · rw [List.getLast?_concat] at last
        cases last
        exact absurd failed values
  | missing needed given reply =>
    obtain ⟨-, name, hn, -⟩ := (Resolution.needsFetch_iff r).mp needed
    have tokens := List.ne_nil_of_mem hn
    rw [List.getLast?_concat, settle_missing given]
    cases reply with
    | error f =>
      refine iff_of_true ?_ ⟨_, rfl, ⟨f, rfl⟩, rfl, ((Resolution.given_eq_some_iff _ _).mp given).1⟩
      exact (Resolution.readiness_eq_failed_iff _).mpr
        ⟨tokens, Resolution.outcomeError_error_ne_empty f⟩
    | ok values =>
      refine iff_of_false (fun failed ↦ ?_) ?_
      · exact ((Resolution.readiness_eq_failed_iff _).mp failed).2 rfl
      · rintro ⟨l, last, ⟨f, failed⟩, -⟩
        cases last
        cases failed

/-! ### Previews -/

variable {World : Type} (outside : machine.Outside World)
  {d : Desk machine (World × List Lookup)} {s : Session} {c : machine.Command}

private theorem exists_fetching (start : machine.start d.state c = s.fetchIfNeeded) :
    ∃ d' r found, Passes (logged outside) d [c] d' ∧ d'.state = s.withResolution r ∧
      Fetching s.resolution r found ∧ d'.world.2 = d.world.2 ++ found := by
  cases needed : s.resolution.needsFetch with
  | false =>
    refine ⟨_, s.resolution, [], .single _ (run_of_complete start needed), rfl,
      .complete needed, ?_⟩
    exact (List.append_nil _).symm
  | true =>
    obtain ⟨⟨record, given⟩, -⟩ := (Resolution.needsFetch_iff _).mp needed
    exact ⟨_, _, _, .single _ (run_of_missing start needed given), rfl,
      .missing needed given _, rfl⟩

/-- A selection, made with at most one lookup before it, leaves lookups that led to what it
leaves. -/
private theorem exists_selected (start : machine.start d.state c = s.fetchIfNeeded)
    (traced : Traced (Session.resolution d.state) d.world.2) (short : d.world.2.length ≤ 1)
    (tokens : s.resolution.tokens = (Session.resolution d.state).tokens)
    (blank : s.resolution.Blank) :
    ∃ d', Passes (logged outside) d [c] d' ∧
      Traced (Session.resolution d'.state) d'.world.2 ∧
      d'.world.2.length ≤ d.world.2.length + 1 := by
  obtain ⟨d', r, found, passes, state, fetched, log⟩ := exists_fetching outside start
  refine ⟨d', passes, ?_, ?_⟩
  · rw [state, log]
    exact (traced.of_blank short tokens blank).fetching fetched
  · have one := fetched.length_le
    rw [log, List.length_append]
    omega

private theorem exists_selections (w : World) (s : Session) {b : Api.PreviewBody} {s' : Session}
    (taken : s.applyDraft b.config = (.ok (), s')) :
    ∃ d, Passes (logged outside) ⟨s, (w, []), []⟩ b.selections d ∧
      Traced (Session.resolution d.state) d.world.2 := by
  have start : machine.start s (Command.applyDraft b.config) = s'.finish :=
    congrArg Session.conclude taken
  have drafted : Passes (logged outside) ⟨s, (w, []), []⟩ [.applyDraft b.config]
      ⟨s', (w, []), []⟩ := .single _ (Desk.run_of_no_call _ start)
  have renewed := s.applyConfig_renewed b.config (.ofSaved b.config.fields) none
  rw [show s.applyConfig b.config (.ofSaved b.config.fields) none = _ from taken] at renewed
  have traced : Traced s'.resolution [] :=
    ⟨nofun, nofun, .inl renewed.blank.1, .inl renewed.blank.2⟩
  have object : ∃ d, Passes (logged outside) ⟨s', (w, []), []⟩
      (b.contextObject.toList.map fun object ↦ .selectContextObject (some object) none) d ∧
      Traced (Session.resolution d.state) d.world.2 ∧ d.world.2.length ≤ 1 := by
    cases b.contextObject with
    | none => exact ⟨_, .nil _ _, traced, Nat.zero_le 1⟩
    | some object => exact exists_selected outside rfl traced (Nat.zero_le 1) rfl ⟨rfl, rfl⟩
  obtain ⟨d₁, placed, traced₁, short⟩ := object
  have record : ∃ d, Passes (logged outside) d₁
      (b.contextRecord.toList.map fun record ↦ .selectContextRecord (some record)) d ∧
      Traced (Session.resolution d.state) d.world.2 := by
    cases b.contextRecord with
    | none => exact ⟨_, .nil _ _, traced₁⟩
    | some record =>
      obtain ⟨d, passes, traced, -⟩ := exists_selected outside
        (c := Command.selectContextRecord (some record)) rfl traced₁ short rfl ⟨rfl, rfl⟩
      exact ⟨d, passes, traced⟩
  obtain ⟨d₂, picked, traced₂⟩ := record
  exact ⟨d₂, (drafted.append _ placed).append _ picked, traced₂⟩

/-- Where the draft cannot be taken over, nothing is looked up, and no merge token is known. -/
private theorem halted_preview (w : World) (s : Session) {c : Config} {s' : Session} {f : Failure}
    (halted : s.applyDraft c = (.error f, s')) (rest : List machine.Command) :
    lookups outside w s (.applyDraft c :: rest) = [] ∧
      (Session.resolution (runAll outside ⟨s, w, []⟩ (.applyDraft c :: rest)).1.state).readiness ≠
        .failed := by
  have start : machine.start s (Command.applyDraft c) = s'.fail f :=
    congrArg Session.conclude halted
  have logged := Desk.runAll_of_failed (logged outside) (d := ⟨s, (w, []), []⟩) rest
    (Desk.run_of_no_call _ start)
  have run := Desk.runAll_of_failed outside (d := ⟨s, w, []⟩) rest (Desk.run_of_no_call _ start)
  have state : (runAll outside ⟨s, w, []⟩ (.applyDraft c :: rest)).1.state = s' :=
    congrArg (fun r ↦ r.1.state) run
  refine ⟨congrArg (fun r ↦ r.1.world.2) logged, ?_⟩
  have renewed := s.applyConfig_renewed c (.ofSaved c.fields) none
  rw [show s.applyConfig c (.ofSaved c.fields) none = _ from halted] at renewed
  rw [state]
  exact fun failed ↦ ((Resolution.readiness_eq_failed_iff _).mp failed).1
    (renewed.unread (Session.unwritten_of_applyConfig halted))

/-- A lookup of a preview that has failed is made again exactly if it is one of a selection, for the
object and the record that are selected in the end. The merge tokens have failed in the end exactly
if the last lookup has, for these. -/
theorem lookup_retried_iff (w : World) (s : Session) (b : Api.PreviewBody) :
    let shown := Session.resolution (runAll outside ⟨s, w, []⟩ b.commands).1.state
    (Retried (lookups outside w s b.commands) ↔
      ∃ l ∈ lookups outside w s b.selections, l.Failed ∧ l.IsFor shown) ∧
    (shown.readiness = .failed ↔
      ∃ l, (lookups outside w s b.commands).getLast? = some l ∧ l.Failed ∧ l.IsFor shown) := by
  intro shown
  rcases taken : s.applyDraft b.config with ⟨f | ⟨⟩, s'⟩
  · obtain ⟨made, -⟩ := halted_preview outside w s taken b.selections.tail
    obtain ⟨made', ready⟩ := halted_preview outside w s taken b.commands.tail
    change lookups outside w s b.selections = [] at made
    change lookups outside w s b.commands = [] at made'
    rw [made, made']
    refine ⟨iff_of_false ?_ ?_, iff_of_false ready ?_⟩
    · rintro ⟨before, l, after, none, -⟩
      have mem : l ∈ before ++ l :: after := List.mem_append_right _ List.mem_cons_self
      rw [← none] at mem
      cases mem
    · rintro ⟨l, mem, -⟩
      cases mem
    · rintro ⟨l, last, -⟩
      cases last
  obtain ⟨d, selections, traced⟩ := exists_selections outside w s taken
  obtain ⟨d', r, found, last, state, fetched, log⟩ :=
    exists_fetching outside (d := d) (s := d.state) (c := Command.ensureValues) rfl
  have all : Passes (logged outside) ⟨s, (w, []), []⟩ b.commands d' := selections.append _ last
  have shown' : shown = r := by
    have state' := runAll_logged outside w s b.commands
    rw [all.runAll_fst, state] at state'
    exact (congrArg Session.resolution state').symm
  have made : lookups outside w s b.selections = d.world.2 :=
    congrArg (fun d ↦ d.world.2) selections.runAll_fst
  have made' : lookups outside w s b.commands = d.world.2 ++ found :=
    (congrArg (fun d ↦ d.world.2) all.runAll_fst).trans log
  rw [shown', made, made']
  exact ⟨traced.retried_iff fetched, traced.failed_iff fetched⟩

/-- A data source with one record. -/
def oneRecord : Api.World :=
  ⟨⟨[.ofRows "Account" [("Id", .text), ("Industry", .text)] ["Id"]
    [[.text "001A", .text "Energy"]]], [], [], []⟩, Store.empty⟩

/-- A draft to preview with a record that is not there. -/
def absentRecord : Api.PreviewBody :=
  ⟨⟨Config.currentVersion, "Account", [⟨"Id", none, true, none⟩],
    "WHERE Industry = $record.Industry", 50, none, .ascending, .plain, .initial⟩,
    some "Account", some "404"⟩

/-- What is asked for, and answered, twice. -/
def absentLookup : Lookup :=
  ⟨⟨some "Account", "404", ["Industry"]⟩, .error (.engine (.recordMissing "404" "Account"))⟩

/-- A lookup of the selections can fail and be made again when what is missing is fetched. -/
theorem exists_lookup_retried : ∃ (w : Api.World) (b : Api.PreviewBody) (l : Lookup),
    l.Failed ∧ lookups Api.World.editorReply w (.initial none) b.selections = [l] ∧
      Retried (lookups Api.World.editorReply w (.initial none) b.commands) := by
  have again : lookups Api.World.editorReply oneRecord (.initial none) absentRecord.commands =
      [] ++ absentLookup :: [absentLookup] := rfl
  refine ⟨oneRecord, absentRecord, absentLookup, ⟨_, rfl⟩, rfl, ?_⟩
  exact ⟨[], absentLookup, [absentLookup], again, ⟨_, rfl⟩, absentLookup,
    List.mem_singleton_self _, rfl⟩

end TableView.Editor
