import TableView.Proofs.Editor.Replacement

/-!
# Loads that were moved on from

A load remembers the generation in which it was started, and takes effect only in that generation.
The generation of a session counts the loads that were started, the drafts that were begun anew and
the deletions that went through (`generation_run`), and nothing else. So a load is held back by
these alone: whatever a selection, a copy or a draft that was taken over has made of the draft
since, the load replaces it (`draft_after_load`).
-/

namespace TableView.Editor

open TableView.Task (Event Run Scene Step)

variable {x x₀ x₁ y : Scene machine} {e : Event machine} {es : List (Event machine)}

/-- Whether an event begins a new generation: a load that is started, a new draft, or a deletion
that went through. -/
def advances : Event machine → Bool
  | .started (Command.loadConfig _) => true
  | .started Command.new => true
  | .resumed (Suspension.deleting _) (.ok _) => true
  | _ => false

/-- The draft that a load brings in the place of another one, with the fields of its object, or
without if they could not be discovered. A load brings none if the fields are not to be had for
another reason. -/
def Draft.loaded? (d : Draft) (entry : SavedConfig) (id : Option Int) :
    Except Failure FieldList → Option Draft
  | .ok live => some (d.ofSaved entry (.reconcile entry.config.fields live) id)
  | .error f => if Session.isDiscovery f then some (d.ofSaved entry .empty id) else none

/-! ### The generation of a session -/

theorem Fetched.generation_eq {s s' : Session} {w : List Suspension} (h : Fetched s s' w) :
    s'.generation = s.generation := by
  cases h with
  | unneeded => rfl
  | begun => rfl

namespace Session

variable (s : Session)

theorem fetchIfNeeded_generation : s.fetchIfNeeded.1.generation = s.generation :=
  (fetchIfNeeded_fetched s).generation_eq

private theorem andThen_generation (result : Except Failure Unit × Session) :
    (andThen fetchIfNeeded result).1.generation = result.2.generation := by
  rcases result with ⟨(f | u), s'⟩
  · rfl
  · exact fetchIfNeeded_generation s'

theorem rescanAndFetch_generation : s.rescanAndFetch.1.generation = s.generation :=
  (andThen_generation s.rescan).trans s.rescan_generation

private theorem clone_generation : (conclude s.clone).1.generation = s.generation := by
  rw [conclude_fst]
  exact s.copied.rescan_generation

private theorem applyDraft_generation (c : Config) :
    (conclude (s.applyDraft c)).1.generation = s.generation := by
  rw [conclude_fst]
  exact (s.configured c _ none).rescan_generation

private theorem applySaved_generation (entry : SavedConfig) (fields : FieldList)
    (id : Option Int) : (s.applySaved entry fields id).2.generation = s.generation := by
  obtain ⟨tokens, name, description, taken⟩ := s.exists_applySaved_snd entry fields id
  rw [taken]
  rfl

private theorem selectObject_generation (name : String) :
    (s.selectObject name).1.generation = s.generation := by
  unfold selectObject
  split
  · exact rescan_generation _
  · rfl

private theorem setFieldFilter_generation (filter : Value) :
    (conclude (s.setFieldFilter filter)).1.generation = s.generation := by
  rw [conclude_fst, setFieldFilter]
  split
  · rfl
  · rfl

private theorem setRowLimit_generation (limit : Value) :
    (conclude (s.setRowLimit limit)).1.generation = s.generation := by
  rw [conclude_fst, setRowLimit]
  split
  · rfl
  · rfl
  · rfl

private theorem setDefaultSort_generation (field : Option String) (direction : Value) :
    (conclude (s.setDefaultSort field direction)).1.generation = s.generation := by
  rw [conclude_fst, setDefaultSort]
  split
  · rfl
  · split
    · rfl
    · rfl

private theorem dropOn_generation (target : String) (after : Bool) :
    (s.dropOn target after).generation = s.generation := by
  unfold dropOn
  split
  · rfl
  · rfl

private theorem refreshValues_generation :
    (s.start .refreshValues).1.generation = s.generation := by
  simp only [start]
  split
  · next h =>
    exact (fetch_fetched s ((Resolution.getD_ne_empty_iff _).mp h.1)).generation_eq
  · rfl

private theorem saveConfig_generation (name description : Option String) :
    (s.saveConfig name description).1.generation = s.generation := by
  rcases s.saveConfig_cases name description with ⟨-, e, -, refused⟩ | ⟨-, handed⟩
  · rw [refused]
    rfl
  · rw [handed]

private theorem deleteConfig_generation : s.deleteConfig.1.generation = s.generation := by
  unfold deleteConfig
  split
  · rfl
  · rfl

/-- The start of an operation begins a new generation, or stays in the one there is. -/
theorem start_generation (c : Command) :
    (s.start c).1.generation = s.generation + (advances (.started c)).toNat := by
  cases c with
  | selectObject name => exact selectObject_generation s _
  | setFieldVisible name visible => exact rescanAndFetch_generation _
  | setAllVisible visible => exact rescanAndFetch_generation _
  | setFilter filter => exact rescanAndFetch_generation _
  | setFieldFilter filter => exact setFieldFilter_generation s filter
  | setRowLimit limit => exact setRowLimit_generation s limit
  | setDefaultSort field direction => exact setDefaultSort_generation s field direction
  | dropOn target after => exact dropOn_generation s target after
  | selectContextObject object label => exact fetchIfNeeded_generation _
  | selectContextRecord record => exact fetchIfNeeded_generation _
  | refreshValues => exact refreshValues_generation s
  | ensureValues => exact fetchIfNeeded_generation s
  | saveConfig name description => exact saveConfig_generation s name description
  | deleteConfig => exact deleteConfig_generation s
  | clone => exact clone_generation s
  | applyDraft config => exact applyDraft_generation s config
  | _ => rfl

private theorem resumeObjects_generation (reply : Except Failure (List Source.ObjectOption)) :
    (s.resumeObjects reply).1.generation = s.generation := by
  cases reply with
  | ok found => rfl
  | error f =>
    simp only [resumeObjects]
    split
    · rfl
    · rfl

private theorem resumeFields_generation (requested : String)
    (reply : Except Failure (List DiscoveredField)) :
    (s.resumeFields requested reply).1.generation = s.generation := by
  simp only [resumeFields]
  split
  · split
    · exact rescan_generation _
    · rfl
  · split
    · exact rescanAndFetch_generation _
    · rfl

private theorem resumeSearch_generation (term : String)
    (reply : Except Failure (List Source.ObjectOption)) :
    (s.resumeSearch term reply).1.generation = s.generation := by
  cases reply with
  | error f => rfl
  | ok found =>
    simp only [resumeSearch]
    split
    · rfl
    · rfl

private theorem resumeEntry_generation (id : Option Int) (generation : Nat)
    (reply : Except Failure (Option SavedConfig)) :
    (s.resumeEntry id generation reply).1.generation = s.generation := by
  rcases reply with f | (_ | entry)
  · rfl
  · rfl
  · simp only [resumeEntry]
    split
    · rfl
    · rfl

private theorem resumeEntryFields_generation (id : Option Int) (generation : Nat)
    (entry : SavedConfig) (reply : Except Failure (List DiscoveredField)) :
    (s.resumeEntryFields id generation entry reply).1.generation = s.generation := by
  simp only [resumeEntryFields]
  split
  · split
    · exact applySaved_generation _ entry _ id
    · rfl
  · split
    · rw [andThen_generation]
      exact applySaved_generation _ entry _ id
    · rfl

/-- A reply begins a new generation if it ends a deletion, and else stays in the one there is. -/
theorem resume_generation (p : Suspension) (reply : p.call.Reply) :
    (s.resume p reply).1.generation =
      s.generation + (advances (.resumed p reply)).toNat := by
  cases p with
  | objects => exact resumeObjects_generation s reply
  | fields requested => exact resumeFields_generation s requested reply
  | search term => exact resumeSearch_generation s term reply
  | values ticket =>
    change (s.resumeValues ticket reply).1.generation = s.generation
    rw [s.resumeValues_state ticket reply]
    rfl
  | entry id generation => exact resumeEntry_generation s id generation reply
  | entryFields id generation entry =>
    exact resumeEntryFields_generation s id generation entry reply
  | saving config name description id => cases reply <;> rfl
  | deleting id => cases reply <;> rfl
  | configs => cases reply <;> rfl

end Session

theorem generation_step (step : Step x e y) :
    y.state.generation = x.state.generation + (advances e).toNat := by
  cases step with
  | start s before after c => exact s.start_generation c
  | resume s before after p reply => exact s.resume_generation p reply

/-- The generation counts the events that begin a new one. -/
theorem generation_run (run : Run x es y) :
    y.state.generation = x.state.generation + es.countP advances := by
  induction run with
  | nil => rfl
  | @snoc es y z e run step ih =>
    rw [generation_step step, ih, List.countP_append, List.countP_singleton, Nat.add_assoc]
    cases advances e <;> rfl

/-- A generation is the current one exactly as long as no new one was begun. -/
theorem generation_eq_iff (run : Run x es y) :
    y.state.generation = x.state.generation ↔ es.any advances = false := by
  rw [generation_run run, Nat.add_eq_left, List.countP_eq_zero, List.any_eq_false]

/-! ### Replies to a load -/

namespace Session

variable (s : Session)

/-- The configuration that has come changes nothing yet. -/
private theorem resumeEntry_same (id : Option Int) (generation : Nat)
    (reply : Except Failure (Option SavedConfig)) :
    ∃ loading, (s.resumeEntry id generation reply).1 = { s with loading := loading } := by
  rcases reply with f | (_ | entry)
  · exact ⟨s.loading, rfl⟩
  · exact ⟨s.loading, rfl⟩
  · simp only [resumeEntry]
    split
    · exact ⟨true, rfl⟩
    · exact ⟨s.loading, rfl⟩

/-- The fields of a loaded configuration change nothing if they come in another generation than the
one that asked for them, or if they bring no draft. -/
private theorem resumeEntryFields_same (id : Option Int) (generation : Nat) (entry : SavedConfig)
    (reply : Except Failure (List DiscoveredField))
    (h : s.generation ≠ generation ∨ s.draft.loaded? entry id (discovered reply) = none) :
    (s.resumeEntryFields id generation entry reply).1 = { s with loading := false } := by
  simp only [resumeEntryFields]
  cases hd : discovered reply with
  | error f =>
    rw [hd, Draft.loaded?] at h
    dsimp only
    split
    · next taken =>
      rcases h with stale | none
      · exact absurd taken.2 stale
      · rw [if_pos taken.1] at none
        exact absurd none (Option.some_ne_none _)
    · rfl
  | ok live =>
    rw [hd, Draft.loaded?] at h
    have stale : s.generation ≠ generation := h.resolve_right (Option.some_ne_none _)
    dsimp only
    rw [if_neg stale]
    rfl

/-- In the generation that asked for them, they put the draft that they bring in its place. -/
private theorem resumeEntryFields_draft (id : Option Int) (entry : SavedConfig)
    (reply : Except Failure (List DiscoveredField)) :
    (s.resumeEntryFields id s.generation entry reply).1.draft =
      (s.draft.loaded? entry id (discovered reply)).getD s.draft := by
  simp only [resumeEntryFields, and_true, ite_true]
  cases hd : discovered reply with
  | error f =>
    simp only [Draft.loaded?]
    split
    · exact applySaved_draft _ entry .empty id
    · rfl
  | ok live =>
    simp only [andThen_draft, applySaved_draft]
    rfl

end Session

/-- A load asks for its configuration in a generation of its own. The answer of the store leaves the
session as it is. The fields of the object, or the failure to discover them, leave it as it is if a
load was started, a draft begun anew or a deletion gone through since, or if they bring no draft;
else they put the loaded draft in its place, whatever became of the draft in between, but leave its
name and its description if the query of the loaded draft cannot be written. -/
theorem draft_after_load {id : Option Int}
    (first : Step x₀ (.started (Command.loadConfig id)) x₁) (run : Run x₁ es x) :
    Suspension.entry id x₁.state.generation ∈ x₁.waiting ∧
      (∀ (reply : Except Failure (Option SavedConfig)) (y : Scene machine),
        Step x (.resumed (Suspension.entry id x₁.state.generation) reply) y →
          ∃ loading, y.state = { x.state with loading := loading }) ∧
      ∀ (entry : SavedConfig) (reply : Except Failure (List DiscoveredField)) (y : Scene machine),
        Step x (.resumed (Suspension.entryFields id x₁.state.generation entry) reply) y →
          (es.any advances = true ∨
              x.state.draft.loaded? entry id (Session.discovered reply) = none →
            y.state = { x.state with loading := false }) ∧
          (es.any advances = false →
            y.state.draft =
              (x.state.draft.loaded? entry id (Session.discovered reply)).getD x.state.draft) := by
  refine ⟨?_, fun reply y step ↦ ?_, fun entry reply y step ↦ ?_⟩
  · cases first with
    | start s before after =>
      exact Task.mem_of_mem_between before after (List.mem_singleton_self _)
  · cases step with
    | resume s before after => exact s.resumeEntry_same id x₁.state.generation reply
  · cases step with
    | resume s before after =>
      have current : s.generation = x₁.state.generation ↔ es.any advances = false :=
        generation_eq_iff run
      constructor
      · intro ended
        refine s.resumeEntryFields_same id x₁.state.generation entry reply (ended.imp_left ?_)
        intro advanced same
        exact Bool.noConfusion (advanced.symm.trans (current.mp same))
      · intro still
        have kept := s.resumeEntryFields_draft id entry reply
        rw [current.mpr still] at kept
        exact kept

/-! ### Loads over a draft that was moved on from -/

/-- The scene of a draft over which another configuration is being loaded. -/
def loadingScene : Scene machine := (contactScene "").start (Command.loadConfig (some 7))

/-- The scene after one more operation on the draft, and after the configuration has come. -/
def movedOnScene (c : Command) : Scene machine :=
  (loadingScene.start c).resume [] (loadingScene.state.start c).2.waiting (.entry (some 7) 1)
    foundEntry

/-- The scene after the fields of its object have come too. -/
def overwrittenScene (c : Command) : Scene machine :=
  (movedOnScene c).resume [] (loadingScene.state.start c).2.waiting
    (.entryFields (some 7) 1 contactEntry) (SchemaSource.contacts.look "Contact")

private theorem run_movedOnScene (c : Command) : Run loadingScene
    [.started c, .resumed (Suspension.entry (some 7) 1) foundEntry] (movedOnScene c) := by
  have loading : Run loadingScene [] loadingScene := .nil
  exact (loading.start c).resume [] (loadingScene.state.start c).2.waiting
    (Suspension.entry (some 7) 1) rfl foundEntry

private theorem step_overwrittenScene (c : Command)
    (h : (movedOnScene c).waiting = [] ++ Suspension.entryFields (some 7) 1 contactEntry ::
      (loadingScene.state.start c).2.waiting) :
    Step (movedOnScene c) (.resumed (Suspension.entryFields (some 7) 1 contactEntry)
      (SchemaSource.contacts.look "Contact")) (overwrittenScene c) :=
  (movedOnScene c).step_resume [] _ (Suspension.entryFields (some 7) 1 contactEntry) h _

theorem overwrittenScene_draft :
    (overwrittenScene (.selectObject (some "Account"))).state.draft =
        .ofSaved (Session.draft (movedOnScene (.selectObject (some "Account"))).state) contactEntry
          (.reconcile contactEntry.config.fields
            ⟨[⟨"Id", "Id", true, true⟩, ⟨"Email", "Email", true, true⟩]⟩) (some 7) ∧
      (overwrittenScene (.selectObject (some "Account"))).state.draft.name = "Contacts" ∧
      (((movedOnScene .endDrag).start Command.new).resume [] []
          (.entryFields (some 7) 1 contactEntry) (SchemaSource.contacts.look "Contact")).state =
        { ((movedOnScene .endDrag).start Command.new).state with loading := false } := by
  have first : Step (contactScene "") (.started (Command.loadConfig (some 7))) loadingScene :=
    Scene.step_start _ _
  refine ⟨?_, rfl, ?_⟩
  · have run := run_movedOnScene (.selectObject (some "Account"))
    have step := step_overwrittenScene (.selectObject (some "Account")) rfl
    have replies := (draft_after_load first run).2.2
    exact (replies contactEntry _ _ step).2 rfl
  · have run := (run_movedOnScene .endDrag).start Command.new
    have step := ((movedOnScene .endDrag).start Command.new).step_resume [] []
      (Suspension.entryFields (some 7) 1 contactEntry) rfl (SchemaSource.contacts.look "Contact")
    have replies := (draft_after_load first run).2.2
    exact (replies contactEntry _ _ step).1 (.inl rfl)

/-- Whether a load goes on over what an operation has made of the draft while it waited. -/
def LoadsOver (c : Command) : Prop :=
  ∃ x y : Scene machine,
    Run (opening none) [.started (.applyDraft (contactDraft "")),
      .started (.loadConfig (some 7)), .started c,
      .resumed (Suspension.entry (some 7) 1) foundEntry] x ∧
    Step x (.resumed (Suspension.entryFields (some 7) 1 contactEntry)
      (SchemaSource.contacts.look "Contact")) y ∧
    x.state.draft.configId = none ∧ y.state.draft.configId = some 7

private theorem loadsOver (c : Command)
    (h : (movedOnScene c).waiting = [] ++ Suspension.entryFields (some 7) 1 contactEntry ::
      (loadingScene.state.start c).2.waiting)
    (before : (movedOnScene c).state.draft.configId = none)
    (after : (overwrittenScene c).state.draft.configId = some 7) : LoadsOver c := by
  have run : Run (opening none) _ (movedOnScene c) :=
    ((run_contactScene "").start (.loadConfig (some 7))).append (run_movedOnScene c)
  exact ⟨movedOnScene c, overwrittenScene c, run, step_overwrittenScene c h, before, after⟩

/-- A load replaces a copy of the draft, a draft that was taken over and the selection of another
object, although each of them is newer than the load. -/
theorem exists_load_over_newer_draft :
    LoadsOver .clone ∧ LoadsOver (.applyDraft (contactDraft "WHERE Id = 1")) ∧
      LoadsOver (.selectObject (some "Account")) :=
  ⟨loadsOver _ rfl rfl rfl, loadsOver _ rfl rfl rfl, loadsOver _ rfl rfl rfl⟩

end TableView.Editor
