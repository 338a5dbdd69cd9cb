import TableView.Editor.Operation
import TableView.Proofs.Editor.Suspension
import TableView.Proofs.Field.Names

/-!
# What becomes of a draft

Everything that one event can do to the draft of a session (`revision_of_step`). Most operations
edit the draft they find, and leave its record, its row limit and the names of its fields alone
(`Draft.Edited`). The others are listed one by one, each with the draft that it leaves: a row limit
that is set, the selection of an object and the reply with its fields, new, copied, applied and
loaded drafts, and the two operations that wait for the store.
-/

namespace TableView.Editor

open TableView.Task (Event Scene Step)

/-- The same record: id, name and description. -/
structure Draft.SameRecord (d d' : Draft) : Prop where
  configId : d'.configId = d.configId
  name : d'.name = d.name
  description : d'.description = d.description

/-- An edit leaves the record of a draft, its object and its row limit alone, and adds, drops and
renames no field. -/
structure Draft.Edited (d d' : Draft) : Prop extends Draft.SameRecord d d' where
  object : d'.object = d.object
  limit : d'.limit = d.limit
  names : d'.fields.names.Perm d.fields.names

namespace Draft

/-- A configuration in the place of a draft, with the given fields. Name and description stay. -/
def configured (d : Draft) (c : Config) (fields : FieldList) (id : Option Int) : Draft :=
  ⟨id, d.name, d.description, c.object, fields, c.filter, c.limit,
    Session.known fields c.sortField, c.sortDirection, c.display, c.viewState.fieldFilter⟩

/-- A saved configuration in the place of a draft. Its name and its description are taken over
last, and not at all if there is no query to look for merge tokens in. -/
def ofSaved (d : Draft) (entry : SavedConfig) (fields : FieldList) (id : Option Int) : Draft :=
  let c := entry.config
  let loaded := d.configured c fields id
  match Query.compileWith c.object fields c.filter (.int c.limit) with
  | .ok _ => { loaded with name := entry.name, description := entry.description.getD "" }
  | .error _ => loaded

end Draft

/-- What an event makes of the draft of a session. -/
inductive Revision (s : Session) : Event machine → Draft → Prop
  | edited {c : Command} {d : Draft} : s.draft.Edited d → Revision s (.started c) d
  | limited {limit : Value} {n : Nat} : RowLimit.ofValue limit = .ok n →
    Revision s (.started (.setRowLimit limit)) { s.draft with limit := n }
  | deselected {name : Option String} : name.getD "" = "" →
    Revision s (.started (.selectObject name)) { s.draft with object := "", fields := .empty }
  | selected {name : String} : name ≠ "" →
    Revision s (.started (.selectObject (some name))) { s.draft with object := name }
  | renewed : Revision s (.started .new) .empty
  | copied (name : String) :
    Revision s (.started .clone) { s.draft with configId := none, name := name }
  | applied (config : Config) :
    Revision s (.started (.applyDraft config))
      (s.draft.configured config (.ofSaved config.fields) none)
  | kept {p : Suspension} {reply : p.call.Reply} : (∀ requested, p ≠ .fields requested) →
    Revision s (.resumed p reply) s.draft
  | superseded {requested : String} {reply : Except Failure (List DiscoveredField)} :
    s.draft.object ≠ requested → Revision s (.resumed (Suspension.fields requested) reply) s.draft
  | broken {reply : Except Failure (List DiscoveredField)} {f : Failure} :
    Session.discovered reply = .error f → Session.isDiscovery f = false →
    Revision s (.resumed (Suspension.fields s.draft.object) reply) s.draft
  | undiscovered {reply : Except Failure (List DiscoveredField)} {f : Failure} :
    Session.discovered reply = .error f → Session.isDiscovery f = true →
    Revision s (.resumed (Suspension.fields s.draft.object) reply)
      { s.draft with fields := .empty }
  | taken {reply : Except Failure (List DiscoveredField)} {live : FieldList} :
    Session.discovered reply = .ok live →
    Revision s (.resumed (Suspension.fields s.draft.object) reply) (s.takeFields live).draft
  | loadedBare {id : Option Int} {entry : SavedConfig} {f : Failure}
    {reply : Except Failure (List DiscoveredField)} :
    Session.discovered reply = .error f → Session.isDiscovery f = true →
    Revision s (.resumed (Suspension.entryFields id s.generation entry) reply)
      (s.draft.ofSaved entry .empty id)
  | loaded {id : Option Int} {entry : SavedConfig} {live : FieldList}
    {reply : Except Failure (List DiscoveredField)} :
    Session.discovered reply = .ok live →
    Revision s (.resumed (Suspension.entryFields id s.generation entry) reply)
      (s.draft.ofSaved entry (.reconcile entry.config.fields live) id)
  | saved {config : Config} {name description : String} {id : Option Int} {given : Nat} :
    Revision s (.resumed (Suspension.saving config name description id) (.ok given))
      { s.draft with configId := some given, name := name, description := description }
  | deleted {id : Option Int} {found : Bool} :
    Revision s (.resumed (Suspension.deleting id) (.ok found)) .empty

namespace Draft

variable (d : Draft)

/-- Whether or not its name and its description are taken over, the rest is. -/
theorem exists_ofSaved (entry : SavedConfig) (fields : FieldList) (id : Option Int) :
    ∃ name description, d.ofSaved entry fields id =
      { d.configured entry.config fields id with name := name, description := description } := by
  unfold ofSaved
  dsimp only
  split
  · exact ⟨_, _, rfl⟩
  · exact ⟨_, _, rfl⟩

theorem ofSaved_name (entry : SavedConfig) (fields : FieldList) (id : Option Int) :
    (d.ofSaved entry fields id).name = entry.name ∨ (d.ofSaved entry fields id).name = d.name := by
  unfold ofSaved
  dsimp only
  split
  · exact .inl rfl
  · exact .inr rfl

theorem ofSaved_configId (entry : SavedConfig) (fields : FieldList) (id : Option Int) :
    (d.ofSaved entry fields id).configId = id := by
  obtain ⟨name, description, h⟩ := d.exists_ofSaved entry fields id
  rw [h]
  rfl

theorem ofSaved_object (entry : SavedConfig) (fields : FieldList) (id : Option Int) :
    (d.ofSaved entry fields id).object = entry.config.object := by
  obtain ⟨name, description, h⟩ := d.exists_ofSaved entry fields id
  rw [h]
  rfl

theorem SameRecord.refl : d.SameRecord d := ⟨rfl, rfl, rfl⟩

theorem Edited.refl : d.Edited d := ⟨.refl d, rfl, rfl, .refl _⟩

theorem Edited.withFields {fields : FieldList} (names : fields.names.Perm d.fields.names) :
    d.Edited { d with fields := fields } :=
  ⟨⟨rfl, rfl, rfl⟩, rfl, rfl, names⟩

end Draft

namespace Session

variable (s : Session)

theorem fetchIfNeeded_draft : s.fetchIfNeeded.1.draft = s.draft :=
  (fetchIfNeeded_fetched s).draft_eq

/-- Neither an operation that failed nor the fetch that comes next changes anything of the draft. -/
theorem andThen_draft (result : Except Failure Unit × Session) :
    (andThen fetchIfNeeded result).1.draft = result.2.draft := by
  rcases result with ⟨(f | u), s'⟩
  · rfl
  · exact fetchIfNeeded_draft s'

theorem rescanAndFetch_draft : s.rescanAndFetch.1.draft = s.draft :=
  (andThen_draft s.rescan).trans s.rescan_draft

theorem dropFields_draft : s.dropFields.draft = { s.draft with fields := .empty } :=
  (s.withFields .empty).rescan_draft

theorem applyDraft_draft (c : Config) :
    (conclude (s.applyDraft c)).1.draft = s.draft.configured c (.ofSaved c.fields) none := by
  rw [conclude_fst]
  exact (s.configured c _ none).rescan_draft

theorem applySaved_draft (entry : SavedConfig) (fields : FieldList) (id : Option Int) :
    (s.applySaved entry fields id).2.draft = s.draft.ofSaved entry fields id := by
  unfold Draft.ofSaved
  dsimp only
  cases hq : Query.compileWith entry.config.object fields entry.config.filter
      (.int entry.config.limit) with
  | ok query =>
    have written : (s.configured entry.config fields id).query = .ok query := hq
    rw [applySaved_of_query _ written]
    rfl
  | error f =>
    have halted : (s.configured entry.config fields id).query = .error f := hq
    rw [applySaved, applyConfig, rescan_of_error halted]
    rfl

theorem clone_draft : (conclude s.clone).1.draft = s.copied.draft := by
  rw [conclude_fst]
  exact s.copied.rescan_draft

private theorem edited_of_draft_eq {s' : Session} (h : s'.draft = s.draft) :
    s.draft.Edited s'.draft := by
  rw [h]
  exact .refl _

private theorem edited_withFields {s' : Session} {fields : FieldList}
    (h : s'.draft = { s.draft with fields := fields })
    (names : fields.names.Perm s.draft.fields.names) : s.draft.Edited s'.draft := by
  rw [h]
  exact .withFields _ names

private theorem setFieldFilter_edited (filter : Value) :
    s.draft.Edited (conclude (s.setFieldFilter filter)).1.draft := by
  rw [conclude_fst, setFieldFilter]
  split
  · exact ⟨⟨rfl, rfl, rfl⟩, rfl, rfl, .refl _⟩
  · exact .refl _

private theorem setRowLimit_revision (limit : Value) : Revision s (.started (.setRowLimit limit))
    (conclude (s.setRowLimit limit)).1.draft := by
  rw [conclude_fst, setRowLimit]
  split
  · next n hn => exact .limited hn
  · exact .edited (.refl _)
  · exact .edited (.refl _)

private theorem setDefaultSort_edited (field : Option String) (direction : Value) :
    s.draft.Edited (conclude (s.setDefaultSort field direction)).1.draft := by
  rw [conclude_fst, setDefaultSort]
  split
  · exact .refl _
  · split
    · exact ⟨⟨rfl, rfl, rfl⟩, rfl, rfl, .refl _⟩
    · exact ⟨⟨rfl, rfl, rfl⟩, rfl, rfl, .refl _⟩

private theorem dropOn_edited (target : String) (after : Bool) :
    s.draft.Edited (s.dropOn target after).draft := by
  unfold dropOn
  split
  · exact .withFields _ (FieldList.names_perm (FieldList.reorder_perm _ _ _ _))
  · exact .refl _

private theorem refreshValues_edited : s.draft.Edited (s.start .refreshValues).1.draft := by
  simp only [start]
  split
  · next h =>
    have selected : s.resolution.Selected := (Resolution.getD_ne_empty_iff _).mp h.1
    exact edited_of_draft_eq s (fetch_fetched s selected).draft_eq
  · exact .refl _

private theorem saveConfig_edited (name description : Option String) :
    s.draft.Edited (s.saveConfig name description).1.draft := by
  rcases s.saveConfig_cases name description with ⟨-, e, -, refused⟩ | ⟨-, handed⟩
  · rw [refused]
    exact .refl _
  · rw [handed]
    exact .refl _

private theorem deleteConfig_edited : s.draft.Edited s.deleteConfig.1.draft := by
  unfold deleteConfig
  split
  · exact .refl _
  · exact .refl _

/-- To select an object is to ask for its fields. -/
theorem selectObject_of_ne_empty (name : String) (h : name ≠ "") :
    s.selectObject name =
      ({ s with draft := { s.draft with object := name }, loading := true },
        .pending (.fields name)) :=
  if_neg h

private theorem selectObject_revision (name : Option String) :
    Revision s (.started (.selectObject name)) (s.selectObject (name.getD "")).1.draft := by
  by_cases hn : name.getD "" = ""
  · have hd : (s.selectObject (name.getD "")).1.draft =
        { s.draft with object := "", fields := .empty } := by
      rw [hn]
      exact dropFields_draft _
    rw [hd]
    exact .deselected hn
  · cases name with
    | none => exact absurd rfl hn
    | some name =>
      rw [Option.getD_some] at hn ⊢
      rw [selectObject_of_ne_empty s name hn]
      exact .selected hn

/-- What the start of an operation makes of the draft. -/
theorem start_revision (c : Command) : Revision s (.started c) (s.start c).1.draft := by
  cases c with
  | selectObject name => exact selectObject_revision s name
  | new => exact .renewed
  | clone =>
    change Revision s (.started .clone) (conclude s.clone).1.draft
    rw [clone_draft]
    exact .copied _
  | applyDraft config =>
    change Revision s (.started (.applyDraft config)) (conclude (s.applyDraft config)).1.draft
    rw [applyDraft_draft]
    exact .applied config
  | setFieldVisible name visible =>
    exact .edited (edited_withFields s (rescanAndFetch_draft _)
      (.of_eq (FieldList.names_setVisible _ _ _)))
  | setAllVisible visible =>
    exact .edited (edited_withFields s (rescanAndFetch_draft _)
      (.of_eq (FieldList.names_setAllVisible _ _)))
  | setFieldLabel name label =>
    exact .edited (.withFields _ (.of_eq (FieldList.names_setLabel _ _ _)))
  | setFieldSortable name sortable =>
    exact .edited (.withFields _ (.of_eq (FieldList.names_setSortable _ _ _)))
  | moveFieldUp name =>
    exact .edited (.withFields _ (FieldList.names_perm (FieldList.moveUp_perm _ _)))
  | moveFieldDown name =>
    exact .edited (.withFields _ (FieldList.names_perm (FieldList.moveDown_perm _ _)))
  | dropOn target after => exact .edited (dropOn_edited s target after)
  | setFilter filter =>
    have hd := rescanAndFetch_draft { s with draft := { s.draft with filter := filter.getD "" } }
    refine .edited ?_
    change s.draft.Edited (rescanAndFetch _).1.draft
    rw [hd]
    exact ⟨⟨rfl, rfl, rfl⟩, rfl, rfl, .refl _⟩
  | setFieldFilter filter => exact .edited (setFieldFilter_edited s filter)
  | setRowLimit limit => exact setRowLimit_revision s limit
  | setDefaultSort field direction => exact .edited (setDefaultSort_edited s field direction)
  | setDisplay recordCount search refresh => exact .edited ⟨⟨rfl, rfl, rfl⟩, rfl, rfl, .refl _⟩
  | selectContextObject object label =>
    exact .edited (edited_of_draft_eq s (fetchIfNeeded_draft _))
  | selectContextRecord record => exact .edited (edited_of_draft_eq s (fetchIfNeeded_draft _))
  | ensureValues => exact .edited (edited_of_draft_eq s (fetchIfNeeded_draft _))
  | refreshValues => exact .edited (refreshValues_edited s)
  | saveConfig name description => exact .edited (saveConfig_edited s name description)
  | deleteConfig => exact .edited (deleteConfig_edited s)
  | loadObjects => exact .edited (.refl _)
  | startDrag name => exact .edited (.refl _)
  | endDrag => exact .edited (.refl _)
  | searchContextObjects term => exact .edited (.refl _)
  | clearContext => exact .edited (.refl _)
  | loadConfig id => exact .edited (.refl _)
  | listConfigs => exact .edited (.refl _)
  | toConfig => exact .edited (.refl _)

/-! ### Replies -/

private theorem resumeObjects_draft (reply : Except Failure (List Source.ObjectOption)) :
    (s.resumeObjects reply).1.draft = s.draft := by
  cases reply with
  | ok found => rfl
  | error f =>
    simp only [resumeObjects]
    split
    · rfl
    · rfl

private theorem resumeSearch_draft (term : String)
    (reply : Except Failure (List Source.ObjectOption)) :
    (s.resumeSearch term reply).1.draft = s.draft := by
  cases reply with
  | error f => rfl
  | ok found =>
    simp only [resumeSearch]
    split
    · rfl
    · rfl

private theorem resumeEntry_draft (id : Option Int) (generation : Nat)
    (reply : Except Failure (Option SavedConfig)) :
    (s.resumeEntry id generation reply).1.draft = s.draft := by
  rcases reply with f | (_ | entry)
  · rfl
  · rfl
  · simp only [resumeEntry]
    split
    · rfl
    · rfl

private theorem resumeFields_revision (requested : String)
    (reply : Except Failure (List DiscoveredField)) :
    Revision s (.resumed (Suspension.fields requested) reply)
      (s.resumeFields requested reply).1.draft := by
  by_cases ho : s.draft.object = requested
  · subst ho
    simp only [resumeFields, and_true, ite_true]
    split
    · next f hd =>
      split
      · next hf =>
        change Revision s _ (dropFields _).draft
        rw [dropFields_draft]
        exact .undiscovered hd hf
      · next hf => exact .broken hd (Bool.eq_false_iff.mpr hf)
    · next live hd =>
      rw [rescanAndFetch_draft]
      exact .taken hd
  · simp only [resumeFields, ho, and_false, ite_false]
    split
    · exact .superseded ho
    · exact .superseded ho

private theorem resumeEntryFields_revision (id : Option Int) (generation : Nat)
    (entry : SavedConfig) (reply : Except Failure (List DiscoveredField)) :
    Revision s (.resumed (Suspension.entryFields id generation entry) reply)
      (s.resumeEntryFields id generation entry reply).1.draft := by
  have kept : Revision s (.resumed (Suspension.entryFields id generation entry) reply) s.draft :=
    .kept fun _ h ↦ nomatch h
  by_cases hg : s.generation = generation
  · subst hg
    simp only [resumeEntryFields, and_true, ite_true]
    split
    · next f hd =>
      split
      · next hf =>
        change Revision s _ (applySaved _ entry .empty id).2.draft
        rw [applySaved_draft]
        exact .loadedBare hd hf
      · exact kept
    · next live hd =>
      rw [andThen_draft, applySaved_draft]
      exact .loaded hd
  · simp only [resumeEntryFields, hg, and_false, ite_false]
    split
    · exact kept
    · exact kept

private theorem kept_of_draft_eq {s' : Session} {p : Suspension} {reply : p.call.Reply}
    (h : s'.draft = s.draft) (hp : ∀ requested, p ≠ .fields requested) :
    Revision s (.resumed p reply) s'.draft := by
  rw [h]
  exact .kept hp

/-- What a reply makes of the draft. -/
theorem resume_revision (p : Suspension) (reply : p.call.Reply) :
    Revision s (.resumed p reply) (s.resume p reply).1.draft := by
  cases p with
  | fields requested => exact resumeFields_revision s requested reply
  | entryFields id generation entry =>
    exact resumeEntryFields_revision s id generation entry reply
  | saving config name description id =>
    cases reply with
    | error f => exact .kept fun _ h ↦ nomatch h
    | ok given => exact .saved
  | deleting id =>
    cases reply with
    | error f => exact .kept fun _ h ↦ nomatch h
    | ok found => exact .deleted
  | objects => exact kept_of_draft_eq s (resumeObjects_draft s reply) fun _ h ↦ nomatch h
  | search term => exact kept_of_draft_eq s (resumeSearch_draft s term reply) fun _ h ↦ nomatch h
  | entry id generation =>
    exact kept_of_draft_eq s (resumeEntry_draft s id generation reply) fun _ h ↦ nomatch h
  | values ticket =>
    have hd : (s.resumeValues ticket reply).1.draft = s.draft := by
      rw [s.resumeValues_state ticket reply]
      rfl
    exact kept_of_draft_eq s hd fun _ h ↦ nomatch h
  | configs =>
    cases reply with
    | error f => exact .kept fun _ h ↦ nomatch h
    | ok found => exact .kept fun _ h ↦ nomatch h

end Session

/-- Every event makes of the draft what is listed for it. -/
theorem revision_of_step {x y : Scene machine} {e : Event machine} (step : Step x e y) :
    Revision x.state e y.state.draft := by
  cases step with
  | start s before after c => exact s.start_revision c
  | resume s before after p reply => exact s.resume_revision p reply

end TableView.Editor
