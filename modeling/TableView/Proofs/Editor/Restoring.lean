import TableView.Editor.Memory
import TableView.Proofs.Editor.Limit
import TableView.Proofs.Editor.Upkeep
import TableView.Proofs.Store.Saved
import TableView.Proofs.Task.Desk

/-!
# Drafts that are saved and loaded again

What is saved of a draft is the configuration in its session, under a name and with a description.
A store keeps all of it (`Store.get_of_save`), and a load merges it with the live fields of the
object. If the session was in order, the merge finds every field in its place, and the draft, its
query and its labels are what they were (`Session.Restores`). So every draft that was saved is
restored by the next load of its id, in whatever session (`restored_of_saved`).

There have to be live fields to merge with. A selection of an object whose fields are not to be had
clears the draft only if it was discovery that failed; after any other failure the fields of the
object before can be saved under the name of the new one, and then they cannot be loaded
(`failed_of_saved`).
-/

namespace TableView.Editor

open Number
open TableView.Task (Desk Event Run Scene)

variable {World : Type}

/-- A world outside in which the fields of objects come from a fixed source, and configurations are
kept in a store. Everything else may answer as it likes. -/
structure Backed (source : SchemaSource) (outside : machine.Outside World) (store : World → Store) :
    Prop where
  fields : ∀ w object, (outside w (Call.fields object)).1 = source.look object
  config : ∀ w id, (outside w (Call.config id)).1 = (store w).get id
  save : ∀ w c name description id,
    (store w).save c (some name) description id =
      ((outside w (Call.save c name description id)).1,
        store (outside w (Call.save c name description id)).2)

/-- The same draft, and the same of everything that is saved and shown of it. -/
structure Session.Restores (s' s : Session) : Prop where
  draft : s'.draft = s.draft
  config : s'.toConfig = s.toConfig
  query : s'.query = s.query
  labels : s'.labels = s.labels

theorem Session.Restores.of_eq {s s' : Session} (draft : s'.draft = s.draft)
    (config : s'.toConfig = s.toConfig) : s'.Restores s where
  draft := draft
  config := config
  query := by simp only [Session.query, draft]
  labels := by simp only [Session.labels, draft]

theorem Session.Restores.trans {s s₁ s' : Session} (first : s'.Restores s₁)
    (second : s₁.Restores s) : s'.Restores s :=
  .of_eq (first.draft.trans second.draft) (first.config.trans second.config)

variable {source : SchemaSource} {outside : machine.Outside World} {store : World → Store}

/-- What comes from outside is what the source and the store say. -/
theorem Backed.serves (backed : Backed source outside store) (c : Call) (reply : c.Reply)
    (h : Desk.Answers outside c reply) : source.Serves c reply := by
  obtain ⟨w, rfl⟩ := h
  cases c with
  | fields object => exact backed.fields w object
  | config id =>
    intro entry found
    exact (Store.valid_of_get ((backed.config w id).symm.trans found)).limit
  | _ => trivial

/-! ### Saving -/

theorem machine_start (s : Session) (c : Command) : machine.start s c = s.start c := rfl

theorem machine_resume (s : Session) (p : Suspension) (reply : p.call.Reply) :
    machine.resume s p reply = s.resume p reply := rfl

namespace Session

variable (s : Session)

/-- The draft as it is after it was saved. -/
def recorded (id : Nat) (name description : String) : Session :=
  { s with draft :=
    { s.draft with configId := some id, name := name, description := description } }

private theorem resume_saved (c : Config) (given text : String) (own : Option Int) (id : Nat) :
    machine.resume { s with loading := true } (Suspension.saving c given text own) (.ok id) =
      ({ s.recorded id given text with loading := false }, .finished (.ok (.configId id))) := rfl

end Session

/-- A draft that was saved was handed to the store, and it has taken over what it was saved as. -/
private theorem recorded_of_saved (backed : Backed source outside store)
    {d after : Desk machine World} {name description : Option String} {id : Nat}
    {calls : List Call} (saved : d.run outside (Command.saveConfig name description) =
      (after, ⟨calls, .finished (.ok (Result.configId id))⟩)) :
    (Session.draft d.state).fields.anyVisible = true ∧ ∃ given text, Text.trim given = given ∧
      after.state = { Session.recorded d.state id given text with loading := false } ∧
      (store d.world).save (Session.toConfig d.state) (some given) (some text)
        (Session.draft d.state).configId = (.ok id, store after.world) := by
  rcases Session.saveConfig_cases d.state name description with
    ⟨-, e, -, refused⟩ | ⟨⟨-, -, shown⟩, handed⟩
  · have start : machine.start d.state (Command.saveConfig name description) =
        (d.state, .finished (.error (.engine e))) := (machine_start _ _).trans refused
    rw [Desk.run_of_no_call outside start] at saved
    cases saved
  · have trimmed := Text.trim_trim (name.getD (Session.draft d.state).name)
    generalize Text.trim (name.getD (Session.draft d.state).name) = given at trimmed handed
    generalize description.getD (Session.draft d.state).description = text at handed
    let p := Suspension.saving (Session.toConfig d.state) given text
      (Session.draft d.state).configId
    have start : machine.start d.state (Command.saveConfig name description) =
        ({ d.state with loading := true }, .pending p) := (machine_start _ _).trans handed
    have stored := backed.save d.world (Session.toConfig d.state) given text
      (Session.draft d.state).configId
    cases answer : outside d.world (machine.call p) with
    | mk reply w =>
      cases reply with
      | error f =>
        have resume : machine.resume { d.state with loading := true } p (.error f) =
            ({ d.state with loading := false }, .finished (.error f)) := rfl
        rw [Desk.run_of_single_call outside start rfl answer resume] at saved
        cases saved
      | ok other =>
        have resume := Session.resume_saved d.state (Session.toConfig d.state) given text
          (Session.draft d.state).configId other
        rw [Desk.run_of_single_call outside start rfl answer resume] at saved
        cases saved
        refine ⟨shown, given, text, trimmed, rfl, ?_⟩
        rw [stored]
        exact congrArg (fun o : _ × World ↦ (o.1, store o.2)) answer

/-- A draft that is handed to the store is saved if the store takes it. -/
private theorem run_saveConfig (backed : Backed source outside store) {d : Desk machine World}
    {name description : Option String} {c : Config} {given text : String} {own : Option Int}
    {id : Nat} {kept : Store}
    (start : Session.start d.state (.saveConfig name description) =
      ({ d.state with loading := true }, .pending (.saving c given text own)))
    (stored : (store d.world).save c (some given) (some text) own = (.ok id, kept)) :
    ∃ after calls, d.run outside (Command.saveConfig name description) =
      (after, ⟨calls, .finished (.ok (Result.configId id))⟩) := by
  cases answer : outside d.world (machine.call (Suspension.saving c given text own)) with
  | mk reply w =>
    have come : reply = .ok id :=
      (congrArg Prod.fst answer).symm.trans
        (congrArg Prod.fst ((backed.save d.world c given text own).symm.trans stored))
    subst come
    have resume := Session.resume_saved d.state c given text own id
    have handed := (machine_start _ _).trans start
    exact ⟨_, _, Desk.run_of_single_call outside handed rfl answer resume⟩

/-! ### Loading -/

namespace Session

variable (s : Session)

/-- Values and errors are not saved. -/
private theorem withResolution_restores {r : Resolution} (object : r.object = s.resolution.object)
    (record : r.record = s.resolution.record) : (s.withResolution r).Restores s := by
  have kept : (s.withResolution r).resolution = r := rfl
  refine .of_eq rfl ?_
  rw [toConfig, toConfig, kept, object, record]
  rfl

end Session

private theorem settle_values (outside : machine.Outside World) (d : Desk machine World)
    (fuel : Nat) (s : Session) (ticket : Ticket) :
    (Desk.settle outside (fuel + 1) { d with state := s }
        (.pending (Suspension.values ticket))).2.stage = .finished (.ok Result.done) ∧
      Session.Restores (Desk.settle outside (fuel + 1) { d with state := s }
        (.pending (Suspension.values ticket))).1.state s := by
  cases answer : outside d.world (machine.call (Suspension.values ticket)) with
  | mk reply w =>
    have resume : machine.resume s (Suspension.values ticket) reply =
        (s.withResolution (s.resolution.settle ticket reply), .finished (.ok .done)) :=
      (machine_resume _ _ _).trans (s.resumeValues_state ticket reply)
    rw [Desk.settle_of_reply outside fuel (d := { d with state := s }) answer resume,
      Desk.settle_finished]
    exact ⟨rfl, s.withResolution_restores (Resolution.settle_object _ _ _)
      (Resolution.settle_record _ _ _)⟩

/-- A fetch at the end of an operation comes to its end, and changes nothing that is saved. -/
private theorem settle_fetchIfNeeded (outside : machine.Outside World) (d : Desk machine World)
    (fuel : Nat) {s s' : Session} {stage : Progress} (h : s.fetchIfNeeded = (s', stage)) :
    (Desk.settle outside (fuel + 1) { d with state := s' } stage).2.stage =
        .finished (.ok Result.done) ∧
      Session.Restores (Desk.settle outside (fuel + 1) { d with state := s' } stage).1.state s := by
  unfold Session.fetchIfNeeded at h
  split at h
  · next needed =>
    obtain ⟨⟨record, given⟩, -⟩ := (Resolution.needsFetch_iff _).mp needed
    rw [Session.fetch, Resolution.begin?_of_given _ record given] at h
    obtain ⟨rfl, rfl⟩ := Prod.mk.inj h
    have values := settle_values outside d fuel
      (s.withResolution { s.resolution with error := none })
      ⟨s.resolution.object, record, s.resolution.tokens⟩
    exact ⟨values.1, values.2.trans (s.withResolution_restores rfl rfl)⟩
  · obtain ⟨rfl, rfl⟩ := Prod.mk.inj h
    exact ⟨rfl, .of_eq rfl rfl⟩

/-- A configuration whose row limit can be written is taken over as it is, and beside it are the
merge tokens of its query. -/
private theorem exists_applySaved (s : Session) {entry : SavedConfig} (fields : FieldList)
    (id : Option Int) (written : digitCount entry.config.limit ≤ maxIntegerDigits) :
    ∃ query, s.applySaved entry fields id = (.ok (),
      ((s.configured entry.config fields id).withResolution
        ((s.configured entry.config fields id).resolution.withQuery query)).applyEntry entry) :=
  ⟨_, s.applySaved_of_query (Session.query_of_limit written)⟩

/-- The session in which a configuration that was found waits for the fields of its object. -/
def Session.expecting (s : Session) : Session :=
  { s with generation := s.generation + 1, loading := true }

/-- A load that finds a configuration asks for the fields of its object, and goes on with them. -/
private theorem run_loadConfig (backed : Backed source outside store) (d : Desk machine World)
    {id : Option Int} {entry : SavedConfig}
    (found : (store d.world).get id = .ok (some entry)) {s : Session} {stage : Progress}
    (resume : (Session.expecting d.state).resumeEntryFields id
      (Session.expecting d.state).generation entry (source.look entry.config.object) = (s, stage)) :
    ∃ w, (d.run outside (Command.loadConfig id)).1 =
        (Desk.settle outside 1 { d with state := s, world := w } stage).1 ∧
      (d.run outside (Command.loadConfig id)).2.stage =
        (Desk.settle outside 1 { d with state := s, world := w } stage).2.stage := by
  let generation := (Session.expecting d.state).generation
  let asked : Session := { d.state with generation := generation }
  have start : machine.start d.state (Command.loadConfig id) =
      (asked, .pending (Suspension.entry id generation)) := machine_start _ _
  cases answer : outside d.world (machine.call (Suspension.entry id generation)) with
  | mk reply w =>
    have come : reply = .ok (some entry) :=
      (congrArg Prod.fst answer).symm.trans ((backed.config d.world id).trans found)
    subst come
    have taken : machine.resume asked (Suspension.entry id generation) (.ok (some entry)) =
        (Session.expecting d.state, .pending (.entryFields id generation entry)) :=
      (machine_resume _ _ _).trans (if_pos rfl)
    cases look : outside w (machine.call (Suspension.entryFields id generation entry)) with
    | mk reply w' =>
      have listed : reply = source.look entry.config.object :=
        (congrArg Prod.fst look).symm.trans (backed.fields w entry.config.object)
      subst listed
      have resume' : machine.resume (Session.expecting d.state)
          (Suspension.entryFields id generation entry) (source.look entry.config.object) =
            (s, stage) := (machine_resume _ _ _).trans resume
      exact ⟨w', Desk.run_of_two_calls outside 1 start rfl answer taken look resume'⟩

/-- A configuration that is found, whose row limit can be written and whose object still has fields,
is loaded in whatever session, and there it is merged with the live fields. -/
private theorem loaded_of_found (backed : Backed source outside store) (d : Desk machine World)
    {id : Option Int} {entry : SavedConfig} {live : FieldList}
    (found : (store d.world).get id = .ok (some entry))
    (written : digitCount entry.config.limit ≤ maxIntegerDigits)
    (discovered : Session.discovered (source.look entry.config.object) = .ok live) :
    (d.run outside (Command.loadConfig id)).2.stage = .finished (.ok Result.done) ∧
      Session.Restores (d.run outside (Command.loadConfig id)).1.state
        (Session.applySaved d.state entry (.reconcile entry.config.fields live) id).2 := by
  let fields := FieldList.reconcile entry.config.fields live
  let ready : Session := { Session.expecting d.state with loading := false }
  obtain ⟨query, applied⟩ := exists_applySaved ready fields id written
  obtain ⟨query', applied'⟩ := exists_applySaved d.state fields id written
  cases fetched : (ready.applySaved entry fields id).2.fetchIfNeeded with
  | mk s stage =>
    have resume : (Session.expecting d.state).resumeEntryFields id
        (Session.expecting d.state).generation entry (source.look entry.config.object) =
          (s, stage) := by
      simp only [Session.resumeEntryFields, discovered, if_true]
      rw [applied] at fetched
      exact (congrArg (Session.andThen Session.fetchIfNeeded) applied).trans fetched
    obtain ⟨w, desk, progress⟩ := run_loadConfig backed d found resume
    have ended := settle_fetchIfNeeded outside { d with world := w } 0 fetched
    rw [applied] at ended
    rw [desk, progress, applied']
    exact ⟨ended.1, ended.2.trans (.of_eq rfl rfl)⟩

/-- A configuration that is found is not loaded in any session, if something else than discovery
fails for the fields of its object. -/
private theorem failed_of_found (backed : Backed source outside store) (d : Desk machine World)
    {id : Option Int} {entry : SavedConfig}
    (found : (store d.world).get id = .ok (some entry))
    (breaks : source.Breaks entry.config.object) :
    ∃ f, (d.run outside (Command.loadConfig id)).2.stage = .finished (.error f) := by
  obtain ⟨f, look, other⟩ := breaks
  have resume : (Session.expecting d.state).resumeEntryFields id
      (Session.expecting d.state).generation entry (source.look entry.config.object) =
        ({ Session.expecting d.state with loading := false }, .finished (.error f)) := by
    simp only [Session.resumeEntryFields, look, Session.discovered, other]
    rfl
  obtain ⟨w, -, progress⟩ := run_loadConfig backed d found resume
  exact ⟨f, progress⟩

/-! ### Both together -/

private theorem toConfig_applySaved (fresh : Session) (entry : SavedConfig) (fields : FieldList)
    (id : Option Int) : (fresh.applySaved entry fields id).2.toConfig =
      { entry.config.current with
        fields := fields.toList.map Field.toSaved
        sortField := Session.known fields entry.config.sortField
        viewState := { entry.config.viewState with
          contextObject := Resolution.given entry.config.viewState.contextObject
          contextRecord := Resolution.given entry.config.viewState.contextRecord } } := by
  obtain ⟨tokens, name, description, applied⟩ := fresh.exists_applySaved_snd entry fields id
  rw [applied]
  rfl

/-- What was saved of a draft in order is enough to put it together again. -/
private theorem applySaved_restores (s fresh : Session) {entry : SavedConfig}
    {name description : String} (named : s.resolution.Named)
    (sorted : Session.known s.draft.fields s.draft.sortField = s.draft.sortField)
    (config : entry.config = s.toConfig) (id : Nat) (called : entry.name = name)
    (described : entry.description = some description)
    (written : digitCount entry.config.limit ≤ maxIntegerDigits) :
    (fresh.applySaved entry s.draft.fields (some id)).2.Restores
      { s.recorded id name description with loading := false } := by
  have object : Resolution.given s.toConfig.viewState.contextObject = s.resolution.object :=
    Resolution.given_of_ne_empty named.object
  have record : Resolution.given s.toConfig.viewState.contextRecord = s.resolution.record :=
    Resolution.given_of_ne_empty named.record
  have sort : Session.known s.draft.fields s.toConfig.sortField = s.draft.sortField := sorted
  refine .of_eq ?_ ?_
  · obtain ⟨query, applied⟩ := exists_applySaved fresh s.draft.fields (some id) written
    rw [applied]
    simp only [Session.configured, Session.applyEntry, Session.withResolution, Session.recorded,
      config, called, described, sort, Option.getD_some]
    rfl
  · rw [toConfig_applySaved, config, object, record, sort]
    rfl

private theorem toConfig_recorded (s : Session) (id : Nat) (name description : String) :
    Session.toConfig { s.recorded id name description with loading := false } = s.toConfig := rfl

/-- A draft in order that was saved is restored by the load of what was saved. -/
private theorem restored_of_orderly (backed : Backed source outside store)
    {d after : Desk machine World} (orderly : source.Orderly d.scene)
    (idle : .fields (Session.draft d.state).object ∉ d.scene.waiting)
    (unbroken : ¬ source.Breaks (Session.draft d.state).object)
    {name description : Option String} {id : Nat} {calls : List Call}
    (saved : d.run outside (Command.saveConfig name description) =
      (after, ⟨calls, .finished (.ok (Result.configId id))⟩))
    (fresh : Desk machine World) (next : fresh.world = after.world) :
    (fresh.run outside (Command.loadConfig (some id))).2.stage = .finished (.ok Result.done) ∧
      Session.Restores (fresh.run outside (Command.loadConfig (some id))).1.state after.state := by
  obtain ⟨shown, given, text, trimmed, state, stored⟩ := recorded_of_saved backed saved
  obtain ⟨entry, rfl, keeps⟩ := Store.get_of_save stored orderly.limit
  have filled := FieldList.ne_empty_of_anyVisible shown
  obtain ⟨object, live, hl, arranges, same⟩ := orderly.arranged.resolve_left filled
  have own : object = (Session.draft d.state).object :=
    same.resolve_right (not_or.mpr ⟨idle, unbroken⟩)
  have config : entry.config = Session.toConfig d.state := keeps.config
  have written : digitCount entry.config.limit ≤ maxIntegerDigits := by
    rw [config]
    exact keeps.digits
  obtain ⟨nodup, -⟩ := SchemaSource.lists_of_discovered hl
  have merged : FieldList.reconcile entry.config.fields live = (Session.draft d.state).fields := by
    rw [config]
    exact FieldList.reconcile_toSaved nodup arranges
  have listed : Session.discovered (source.look entry.config.object) = .ok live := by
    rw [config, ← hl, own]
    rfl
  have found : (store fresh.world).get (some (entry.id : Int)) = .ok (some entry) := by
    rw [next]
    exact keeps.found
  obtain ⟨ended, loaded⟩ := loaded_of_found backed fresh found written listed
  rw [merged] at loaded
  have restored := applySaved_restores d.state fresh.state orderly.named
    (orderly.sorted.resolve_left filled) config entry.id (keeps.name.trans trimmed)
    keeps.description written
  rw [state]
  exact ⟨ended, loaded.trans restored⟩

/-- A draft that was saved is restored, with everything that is saved of it, by the next load of its
id, in whatever session. No draft must have been taken over as it is and no label emptied before,
the fields of its object must not be asked for while it is saved, and nothing else than discovery
may fail for them. -/
theorem restored_of_saved (viewer : Option String) (backed : Backed source outside store)
    {d after : Desk machine World} {es : List (Event machine)}
    (run : Run (opening viewer) es d.scene)
    (undrafted : ∀ config, .started (Command.applyDraft config) ∉ es)
    (labelled : ∀ name, .started (Command.setFieldLabel name "") ∉ es)
    (answered : ∀ e ∈ es, e.Obeys (Desk.Answers outside))
    (idle : .fields (Session.draft d.state).object ∉ d.scene.waiting)
    (unbroken : ¬ source.Breaks (Session.draft d.state).object)
    {name description : Option String} {id : Nat} {calls : List Call}
    (saved : d.run outside (Command.saveConfig name description) =
      (after, ⟨calls, .finished (.ok (Result.configId id))⟩))
    (fresh : Desk machine World) (next : fresh.world = after.world) :
    Session.toConfig after.state = Session.toConfig d.state ∧
      (fresh.run outside (Command.loadConfig (some id))).2.stage = .finished (.ok Result.done) ∧
      Session.Restores (fresh.run outside (Command.loadConfig (some id))).1.state after.state := by
  have orderly : source.Orderly d.scene := by
    refine SchemaSource.orderly_of_run viewer run undrafted labelled fun e he ↦ ?_
    cases e with
    | started c => trivial
    | resumed p reply => exact backed.serves _ _ (answered _ he)
  refine ⟨?_, restored_of_orderly backed orderly idle unbroken saved fresh next⟩
  obtain ⟨-, given, text, -, state, -⟩ := recorded_of_saved backed saved
  exact (congrArg Session.toConfig state).trans (toConfig_recorded d.state id given text)

/-- If something else than discovery fails for the fields of its object, a draft that was saved is
not loaded any more. -/
theorem failed_of_saved (backed : Backed source outside store) {d after : Desk machine World}
    (limit : 0 < (Session.draft d.state).limit)
    (breaks : source.Breaks (Session.draft d.state).object) {name description : Option String}
    {id : Nat} {calls : List Call}
    (saved : d.run outside (Command.saveConfig name description) =
      (after, ⟨calls, .finished (.ok (Result.configId id))⟩))
    (fresh : Desk machine World) (next : fresh.world = after.world) :
    ∃ f, (fresh.run outside (Command.loadConfig (some id))).2.stage = .finished (.error f) := by
  obtain ⟨-, given, text, -, -, stored⟩ := recorded_of_saved backed saved
  obtain ⟨entry, rfl, keeps⟩ := Store.get_of_save stored limit
  have found : (store fresh.world).get (some (entry.id : Int)) = .ok (some entry) := by
    rw [next]
    exact keeps.found
  have config : entry.config = Session.toConfig d.state := keeps.config
  rw [← show entry.config.object = (Session.draft d.state).object from
    congrArg Config.object config] at breaks
  exact failed_of_found backed fresh found breaks

/-! ### A world in memory -/

namespace Memory

/-- The world of a memory whose objects and records stay as they are. -/
def keeping (m : Memory) : machine.Outside Store := fun s c ↦
  ((reply { m with store := s } c).1, (reply { m with store := s } c).2.store)

theorem backed_keeping (m : Memory) : Backed ⟨m.fields⟩ m.keeping id where
  fields _ _ := rfl
  config _ _ := rfl
  save _ _ _ _ _ := rfl

/-- A memory with one object. -/
def contacts : Memory where
  objects := [⟨"Contact", "Contacts", .ok [⟨"Id", "Id"⟩, ⟨"Email", "E-mail"⟩, ⟨"Phone", ""⟩]⟩]
  objectsError := none
  records := []
  store := .empty

end Memory

/-- Edits of a draft of contacts. -/
def contactEdits : List Command :=
  [.setFieldLabel "Email" "Mail", .moveFieldUp "Email", .setFieldVisible "Id" false,
    .setFieldSortable "Phone" false, .setRowLimit (.int 7),
    .setDefaultSort (some "Phone") (.text "desc"), .setDisplay (some true) none (some true),
    .setFieldFilter (.text "selected"), .selectContextObject (some "Account") none,
    .selectContextRecord (some "001A"), .setFilter (some "WHERE Phone <> ''")]

/-- The scene after contacts were selected. -/
def selectedScene : Scene machine :=
  ((opening none).start (Command.selectObject (some "Contact"))).resume [] [] (.fields "Contact")
    (Memory.contacts.fields "Contact")

/-- The desk at which contacts were selected and edited. -/
def editedDesk : Desk machine Store :=
  ⟨(contactEdits.foldl Scene.start selectedScene).state, .empty, []⟩

/-- The selection of contacts, and the edits. -/
def contactEvents : List (Event machine) :=
  [.started (Command.selectObject (some "Contact")),
    .resumed (Suspension.fields "Contact") (Memory.contacts.fields "Contact")] ++
      contactEdits.map (Event.started (M := machine))

private theorem run_editedDesk : Run (opening none) contactEvents editedDesk.scene := by
  have opened : Run (opening none) [] (opening none) := .nil
  have selected : Run (opening none) _ selectedScene :=
    (opened.start (.selectObject (some "Contact"))).resume [] [] (.fields "Contact") rfl
      (Memory.contacts.fields "Contact")
  have waiting : (contactEdits.foldl Scene.start selectedScene).waiting = [] := rfl
  have scene : editedDesk.scene = contactEdits.foldl Scene.start selectedScene :=
    congrArg (Scene.mk _) waiting.symm
  rw [scene]
  exact selected.starts contactEdits

private theorem answered_contactEvents (e : Event machine) (he : e ∈ contactEvents) :
    e.Obeys (Desk.Answers Memory.contacts.keeping) := by
  rcases List.mem_append.mp he with he | he
  · rcases List.mem_cons.mp he with rfl | he
    · trivial
    · rw [List.mem_singleton.mp he]
      exact ⟨.empty, rfl⟩
  · obtain ⟨c, -, rfl⟩ := List.mem_map.mp he
    trivial

private theorem started_of_contactEvents {c : Command} (he : .started c ∈ contactEvents) :
    c = .selectObject (some "Contact") ∨ c ∈ contactEdits := by
  rcases List.mem_append.mp he with he | he
  · rcases List.mem_cons.mp he with he | he
    · exact .inl (Event.started.inj he)
    · nomatch List.mem_singleton.mp he
  · obtain ⟨c', hc, he⟩ := List.mem_map.mp he
    cases he
    exact .inr hc

/-- The configuration of the edited draft. -/
def editedConfig : Config :=
  ⟨2, "Contact", [⟨"Email", some "Mail", true, some true⟩, ⟨"Id", some "Id", false, some true⟩,
    ⟨"Phone", some "", true, some false⟩], "WHERE Phone <> ''", 7, some "Phone", .descending,
    ⟨true, false, true⟩, ⟨.selected, some "Account", some "Account", none, some "001A"⟩⟩

private theorem toConfig_editedDesk : Session.toConfig editedDesk.state = editedConfig := by
  decide +kernel

private theorem saved_editedDesk : ∃ after calls,
    editedDesk.run Memory.contacts.keeping (Command.saveConfig (some " People ") (some "")) =
      (after, ⟨calls, .finished (.ok (Result.configId 1))⟩) := by
  have start : Session.start editedDesk.state (.saveConfig (some " People ") (some "")) =
      ({ editedDesk.state with loading := true },
        .pending (.saving (Session.toConfig editedDesk.state) "People" "" none)) := rfl
  have named : boundedName "People" = .ok "People" := by decide +kernel
  have checked : Store.empty.checkNew ⟨"People", some "", editedConfig, some NewConfig.system⟩ =
      .ok () := by decide +kernel
  have new : (none : Option Int).getD 0 = 0 := rfl
  have stored := Store.save_of_checked new named checked (by decide) (by decide +kernel)
    (by decide)
  rw [← toConfig_editedDesk] at stored
  exact run_saveConfig Memory.contacts.backed_keeping start stored

/-- The contacts that were selected and edited are saved, and whatever loads them has them again. -/
theorem editedDesk_restored : ∃ after : Desk machine Store,
    Session.toConfig after.state = editedConfig ∧ ∀ fresh : Desk machine Store,
      fresh.world = after.world →
        Session.Restores (fresh.run Memory.contacts.keeping (Command.loadConfig (some 1))).1.state
          after.state := by
  obtain ⟨after, calls, saved⟩ := saved_editedDesk
  have undrafted (config : Config) : .started (Command.applyDraft config) ∉ contactEvents := by
    intro he
    have hc := started_of_contactEvents he
    simp [contactEdits] at hc
  have labelled (name : String) : .started (Command.setFieldLabel name "") ∉ contactEvents := by
    intro he
    have hc := started_of_contactEvents he
    simp [contactEdits] at hc
  have unbroken : ¬ SchemaSource.Breaks ⟨Memory.contacts.fields⟩
      (Session.draft editedDesk.state).object := by
    rintro ⟨f, look, -⟩
    cases look
  have restored (fresh : Desk machine Store) (next : fresh.world = after.world) :=
    restored_of_saved none Memory.contacts.backed_keeping run_editedDesk undrafted labelled
      answered_contactEvents List.not_mem_nil unbroken saved fresh next
  refine ⟨after, ?_, fun fresh next ↦ (restored fresh next).2.2⟩
  exact (restored ⟨after.state, after.world, []⟩ rfl).1.trans toConfig_editedDesk

/-! ### Fields that are not to be had -/

namespace Memory

/-- A memory with another object, whose fields come in a shape that their schema refuses. -/
def leads : Memory :=
  contacts.setObject ⟨"Lead", "Leads", .error (.schema [⟨[.key "label"], .stringType⟩])⟩

end Memory

/-- The scene after contacts were selected, and then leads. -/
def leadsScene : Scene machine :=
  (selectedScene.start (Command.selectObject (some "Lead"))).resume [] [] (.fields "Lead")
    (Memory.leads.fields "Lead")

/-- The desk at which leads were selected and the fields of contacts have stayed. -/
def leadsDesk : Desk machine Store := ⟨leadsScene.state, .empty, []⟩

/-- The selection of contacts, and that of leads. -/
def leadsEvents : List (Event machine) :=
  [.started (Command.selectObject (some "Contact")),
    .resumed (Suspension.fields "Contact") (Memory.contacts.fields "Contact"),
    .started (Command.selectObject (some "Lead")),
    .resumed (Suspension.fields "Lead") (Memory.leads.fields "Lead")]

private theorem run_leadsDesk : Run (opening none) leadsEvents leadsDesk.scene := by
  have opened : Run (opening none) [] (opening none) := .nil
  exact (((opened.start (.selectObject (some "Contact"))).resume [] [] (.fields "Contact") rfl
    (Memory.contacts.fields "Contact")).start (.selectObject (some "Lead"))).resume [] []
      (.fields "Lead") rfl (Memory.leads.fields "Lead")

private theorem answered_leadsEvents (e : Event machine) (he : e ∈ leadsEvents) :
    e.Obeys (Desk.Answers Memory.leads.keeping) := by
  simp only [leadsEvents, List.mem_cons, List.not_mem_nil, or_false] at he
  rcases he with rfl | rfl | rfl | rfl
  · trivial
  · exact ⟨.empty, rfl⟩
  · trivial
  · exact ⟨.empty, rfl⟩

private theorem started_of_leadsEvents {c : Command} (he : .started c ∈ leadsEvents) :
    c = .selectObject (some "Contact") ∨ c = .selectObject (some "Lead") := by
  rcases List.mem_cons.mp he with he | he
  · exact .inl (Event.started.inj he)
  · rcases List.mem_cons.mp he with he | he
    · nomatch he
    · rcases List.mem_cons.mp he with he | he
      · exact .inr (Event.started.inj he)
      · nomatch List.mem_singleton.mp he

private theorem saved_leadsDesk : ∃ after calls,
    leadsDesk.run Memory.leads.keeping (Command.saveConfig (some "People") none) =
      (after, ⟨calls, .finished (.ok (Result.configId 1))⟩) := by
  have start : Session.start leadsDesk.state (.saveConfig (some "People") none) =
      ({ leadsDesk.state with loading := true },
        .pending (.saving (Session.toConfig leadsDesk.state) "People" "" none)) := rfl
  have named : boundedName "People" = .ok "People" := by decide +kernel
  have checked : Store.empty.checkNew
      ⟨"People", some "", Session.toConfig leadsDesk.state, some NewConfig.system⟩ = .ok () := by
    decide +kernel
  have new : (none : Option Int).getD 0 = 0 := rfl
  have stored := Store.save_of_checked new named checked (by decide) (by decide +kernel)
    (by decide)
  exact run_saveConfig Memory.leads.backed_keeping start stored

/-- Leads are saved with the fields of contacts, and whatever loads them fails. -/
theorem exists_saved_not_restored :
    ∃ (m : Memory) (es : List (Event machine)) (d after : Desk machine Store) (calls : List Call),
      Run (opening none) es d.scene ∧ d.scene.waiting = [] ∧
        (∀ config, .started (Command.applyDraft config) ∉ es) ∧
        (∀ name, .started (Command.setFieldLabel name "") ∉ es) ∧
        (∀ e ∈ es, e.Obeys (Desk.Answers m.keeping)) ∧
        d.run m.keeping (Command.saveConfig (some "People") none) =
          (after, ⟨calls, .finished (.ok (Result.configId 1))⟩) ∧
        ∀ fresh : Desk machine Store, fresh.world = after.world →
          ∃ f, (fresh.run m.keeping (Command.loadConfig (some 1))).2.stage =
            .finished (.error f) := by
  obtain ⟨after, calls, saved⟩ := saved_leadsDesk
  have breaks : SchemaSource.Breaks ⟨Memory.leads.fields⟩ (Session.draft leadsDesk.state).object :=
    ⟨_, rfl, rfl⟩
  refine ⟨.leads, leadsEvents, leadsDesk, after, calls, run_leadsDesk, rfl, fun config he ↦ ?_,
    fun name he ↦ ?_, answered_leadsEvents, saved,
    failed_of_saved Memory.leads.backed_keeping (by decide) breaks saved⟩
  · rcases started_of_leadsEvents he with he | he <;> cases he
  · rcases started_of_leadsEvents he with he | he <;> cases he

end TableView.Editor
