import TableView.Proofs.Editor.Discovery
import TableView.Proofs.Editor.Selection

/-!
# Operations that outlive their draft

An operation that waits for a reply may find another draft when it goes on: a new one, a copy, one
that was taken over or one that was loaded. This module says what then becomes of the draft that it
finds.

A save writes its record into whatever draft is there, and a deletion wipes it. So the draft stays
what it is exactly if the store failed or the draft has it all already, and a draft with another
record or with none only if the store failed (`same_after_store_iff`). A selection puts the fields
of its object into every draft of that object, also into one that was taken over or loaded since
(`same_columns_after_applied_iff`).
-/

namespace TableView.Editor

open TableView.Task (Event Run Scene Step)

variable {x x₀ x₁ y : Scene machine} {e : Event machine} {es : List (Event machine)}

/-! ### Records -/

/-- The same record, the same object and the same fields. -/
structure Draft.Same (d d' : Draft) : Prop extends Draft.SameRecord d d' where
  object : d'.object = d.object
  fields : d'.fields = d.fields

/-- A load of the generation takes effect with this reply, with the fields of its object or, if
discovery failed, without. -/
def Session.TakesLoad (s : Session) (generation : Nat)
    (reply : Except Failure (List DiscoveredField)) : Prop :=
  s.generation = generation ∧
    ∀ f, Session.discovered reply = .error f → Session.isDiscovery f = true

/-- An event that puts another draft in the place of the one before, with the record of this id. -/
def Replaces (s : Session) (id : Option Int) : Event machine → Prop
  | .started Command.new => id = none
  | .started Command.clone => id = none
  | .started (Command.applyDraft _) => id = none
  | .resumed (Suspension.deleting _) (.ok _) => id = none
  | .resumed (Suspension.entryFields loaded generation _) reply =>
    loaded = id ∧ s.TakesLoad generation reply
  | _ => False

/-- An event that may change what record the draft has. -/
def Rerecords : Event machine → Prop
  | .started Command.new => True
  | .started Command.clone => True
  | .started (Command.applyDraft _) => True
  | .resumed (Suspension.saving _ _ _ _) (.ok _) => True
  | .resumed (Suspension.deleting _) (.ok _) => True
  | .resumed (Suspension.entryFields _ _ _) _ => True
  | _ => False

theorem Draft.SameRecord.trans {c d d' : Draft} (first : c.SameRecord d)
    (second : d.SameRecord d') : c.SameRecord d' :=
  ⟨second.configId.trans first.configId, second.name.trans first.name,
    second.description.trans first.description⟩

theorem Draft.Same.refl (d : Draft) : d.Same d := ⟨.refl d, rfl, rfl⟩

private theorem draft_of_taken_load (s : Session) (id : Option Int) (entry : SavedConfig)
    {generation : Nat} {reply : Except Failure (List DiscoveredField)}
    (h : s.TakesLoad generation reply) :
    ∃ fields, (s.resumeEntryFields id generation entry reply).1.draft =
      s.draft.ofSaved entry fields id := by
  obtain ⟨rfl, discovery⟩ := h
  simp only [Session.resumeEntryFields, and_true, ite_true]
  split
  · next f hd =>
    rw [if_pos (discovery f hd)]
    exact ⟨_, Session.applySaved_draft _ entry _ id⟩
  · rw [Session.andThen_draft]
    exact ⟨_, Session.applySaved_draft _ entry _ id⟩

private theorem configId_of_replaces {id : Option Int} (step : Step x e y)
    (h : Replaces x.state id e) : y.state.draft.configId = id := by
  cases step with
  | start s before after c =>
    cases c with
    | new => exact h.symm
    | clone => exact (congrArg Draft.configId s.clone_draft).trans h.symm
    | applyDraft config => exact (congrArg Draft.configId (s.applyDraft_draft config)).trans h.symm
    | _ => exact h.elim
  | resume s before after p reply =>
    cases p with
    | deleting deleted =>
      cases reply with
      | error f => exact h.elim
      | ok found => exact h.symm
    | entryFields loaded generation entry =>
      obtain ⟨rfl, taken⟩ := h
      obtain ⟨fields, hd⟩ := draft_of_taken_load s loaded entry taken
      exact (congrArg Draft.configId hd).trans (Draft.ofSaved_configId _ _ _ _)
    | _ => exact h.elim

private theorem record_step (step : Step x e y) (h : ¬ Rerecords e) :
    x.state.draft.SameRecord y.state.draft := by
  have revision := revision_of_step step
  generalize y.state.draft = d at revision ⊢
  cases revision with
  | edited edit => exact edit.toSameRecord
  | renewed => exact absurd trivial h
  | copied => exact absurd trivial h
  | applied => exact absurd trivial h
  | deleted => exact absurd trivial h
  | loadedBare => exact absurd trivial h
  | loaded => exact absurd trivial h
  | saved => exact absurd trivial h
  | _ => exact ⟨rfl, rfl, rfl⟩

/-- A draft keeps its record until it is replaced or saved. -/
private theorem record_run (run : Run x es y) (kept : ∀ e ∈ es, ¬ Rerecords e) :
    x.state.draft.SameRecord y.state.draft := by
  refine run.invariant (I := fun _ (z : Scene machine) ↦ x.state.draft.SameRecord z.state.draft)
    kept (.refl _) ?_
  intro es z e z' hz he step
  exact hz.trans (record_step step he)

private theorem draft_of_failed_save {config : Config} {name description : String}
    {id : Option Int} {f : Failure}
    (step : Step x (.resumed (Suspension.saving config name description id) (.error f)) y) :
    y.state.draft = x.state.draft := by
  cases step
  rfl

private theorem draft_of_saved {config : Config} {name description : String}
    {id : Option Int} {given : Nat}
    (step : Step x (.resumed (Suspension.saving config name description id) (.ok given)) y) :
    y.state.draft = { x.state.draft with
      configId := some given, name := name, description := description } := by
  cases step
  rfl

private theorem draft_of_failed_deletion {id : Option Int} {f : Failure}
    (step : Step x (.resumed (Suspension.deleting id) (.error f)) y) :
    y.state.draft = x.state.draft := by
  cases step
  rfl

private theorem draft_of_deleted {id : Option Int} {found : Bool}
    (step : Step x (.resumed (Suspension.deleting id) (.ok found)) y) :
    y.state.draft = .empty := by
  cases step
  rfl

private theorem same_after_save_iff {config : Config} {name description : String}
    {id : Option Int} {reply : Except Failure Nat}
    (step : Step x (.resumed (Suspension.saving config name description id) reply) y) :
    x.state.draft.Same y.state.draft ↔ ∀ given, reply = .ok given →
      x.state.draft.configId = some (given : Int) ∧ x.state.draft.name = name ∧
        x.state.draft.description = description := by
  cases reply with
  | error f =>
    rw [draft_of_failed_save step]
    exact ⟨fun _ _ h ↦ (nomatch h), fun _ ↦ .refl _⟩
  | ok given =>
    rw [draft_of_saved step]
    constructor
    · rintro same _ ⟨⟩
      exact ⟨same.configId.symm, same.name.symm, same.description.symm⟩
    · intro has
      obtain ⟨hi, hn, hd⟩ := has given rfl
      exact ⟨⟨hi.symm, hn.symm, hd.symm⟩, rfl, rfl⟩

private theorem same_after_deletion_iff {id : Option Int} {reply : Except Failure Bool}
    (step : Step x (.resumed (Suspension.deleting id) reply) y) :
    x.state.draft.Same y.state.draft ↔
      ∀ found, reply = .ok found → x.state.draft.Same .empty := by
  cases reply with
  | error f =>
    rw [draft_of_failed_deletion step]
    exact ⟨fun _ _ h ↦ (nomatch h), fun _ ↦ .refl _⟩
  | ok found =>
    rw [draft_of_deleted step]
    exact ⟨fun same _ _ ↦ same, fun wiped ↦ wiped found rfl⟩

/-- A save that goes on leaves the draft that it finds what it is exactly if the store failed, or
the draft has the id, the name and the description already. A draft that was put there since with
another record, or with none, is so kept exactly if the store failed. A deletion that goes on leaves
the draft what it is exactly if the store failed, or the draft is blank. -/
theorem same_after_store_iff (first : Step x₀ e x₁) (run : Run x₁ es x) :
    (∀ (config : Config) (name description : String) (id : Option Int)
        (reply : Except Failure Nat) (y : Scene machine),
      Step x (.resumed (Suspension.saving config name description id) reply) y →
        (x.state.draft.Same y.state.draft ↔ ∀ given, reply = .ok given →
            x.state.draft.configId = some (given : Int) ∧ x.state.draft.name = name ∧
              x.state.draft.description = description) ∧
          ∀ other, Replaces x₀.state other e → (∀ e ∈ es, ¬ Rerecords e) →
            (x.state.draft.Same y.state.draft ↔ ∀ given, reply = .ok given →
              other = some (given : Int) ∧ x₁.state.draft.name = name ∧
                x₁.state.draft.description = description)) ∧
      ∀ (id : Option Int) (reply : Except Failure Bool) (y : Scene machine),
        Step x (.resumed (Suspension.deleting id) reply) y →
          (x.state.draft.Same y.state.draft ↔
            ∀ found, reply = .ok found → x.state.draft.Same .empty) := by
  refine ⟨fun config name description id reply y step ↦ ⟨same_after_save_iff step, ?_⟩,
    fun id reply y step ↦ same_after_deletion_iff step⟩
  intro other replaces kept
  -- The draft that is found still has the record with which it was put there.
  have same := record_run run kept
  rw [same_after_save_iff step, same.configId, same.name, same.description,
    configId_of_replaces first replaces]

/-- The scene of a draft that is being saved. -/
def savingScene : Scene machine :=
  (contactScene "").start (Command.saveConfig (some "Contacts") none)

/-- The save of this draft. -/
def contactSave : Suspension :=
  .saving (contactScene "").state.toConfig "Contacts" "" none

/-- The id that the store gives to the draft. -/
def contactId : Except Failure Nat := .ok 7

/-- The scene after a new draft was started while the one before was being saved. -/
def renewedScene : Scene machine := savingScene.start Command.new

private theorem run_savingScene : Run (opening none)
    [.started (.applyDraft (contactDraft "")), .started (.saveConfig (some "Contacts") none)]
    savingScene :=
  (run_contactScene "").start (.saveConfig (some "Contacts") none)

theorem renewedScene_same :
    ¬ renewedScene.state.draft.Same (renewedScene.resume [] [] contactSave contactId).state.draft ∧
      renewedScene.state.draft.Same
        (renewedScene.resume [] [] contactSave (.error (.badState "closed"))).state.draft := by
  have first : Step savingScene (.started Command.new) renewedScene := savingScene.step_start _
  have step (reply : Except Failure Nat) : Step renewedScene (.resumed contactSave reply)
      (renewedScene.resume [] [] contactSave reply) :=
    renewedScene.step_resume [] [] contactSave rfl reply
  have same_iff (reply : Except Failure Nat) :=
    ((same_after_store_iff first .nil).1 _ _ _ _ reply _ (step reply)).2 none rfl
      fun _ h ↦ absurd h List.not_mem_nil
  constructor
  · intro same
    cases ((same_iff contactId).mp same 7 rfl).1
  · refine (same_iff _).mpr ?_
    rintro given ⟨⟩

/-- The scene after a draft was saved, and another one was taken over while it was being deleted. -/
def deletingScene : Scene machine :=
  ((savingScene.resume [] [] contactSave contactId).start Command.deleteConfig).start
    (Command.applyDraft (contactDraft "WHERE Id = 1"))

/-- The deletion of the saved draft. -/
def contactDeletion : Suspension := .deleting (some 7)

/-- The answer that there was a record to delete. -/
def foundRecord : Except Failure Bool := .ok true

/-- A draft that was started while another one was being saved takes over the record of that one,
and a draft that was taken over while another one was being deleted is wiped. -/
theorem exists_other_draft_recorded_and_wiped :
    (∃ x y : Scene machine,
      Run (opening none) [.started (.applyDraft (contactDraft "")),
        .started (.saveConfig (some "Contacts") none), .started .new] x ∧
      Step x (.resumed contactSave contactId) y ∧
        x.state.draft.configId = none ∧ y.state.draft.configId = some 7) ∧
    ∃ x y : Scene machine,
      Run (opening none) [.started (.applyDraft (contactDraft "")),
        .started (.saveConfig (some "Contacts") none), .resumed contactSave contactId,
        .started .deleteConfig, .started (.applyDraft (contactDraft "WHERE Id = 1"))] x ∧
      Step x (.resumed contactDeletion foundRecord) y ∧
        x.state.draft.fields.names = ["Id"] ∧ y.state.draft.fields = .empty := by
  have renewed : Run (opening none) _ renewedScene := run_savingScene.start .new
  have deleting : Run (opening none) _ deletingScene :=
    ((run_savingScene.resume [] [] contactSave rfl contactId).start .deleteConfig).start
      (.applyDraft (contactDraft "WHERE Id = 1"))
  exact ⟨⟨renewedScene, _, renewed, renewedScene.step_resume [] [] contactSave rfl contactId,
    rfl, rfl⟩, deletingScene, _, deleting,
    deletingScene.step_resume [] [] contactDeletion rfl foundRecord, rfl, rfl⟩

/-! ### Columns -/

/-- The same fields and the same field to sort by. -/
def Draft.SameColumns (d d' : Draft) : Prop :=
  d'.fields = d.fields ∧ d'.sortField = d.sortField

/-- Whether a draft has the columns already that a selection would put into it. -/
def Draft.HasColumns (d : Draft) : Except Failure FieldList → Prop
  | .ok live => live = d.fields ∧ Session.known live d.sortField = d.sortField
  | .error f => Session.isDiscovery f = true → d.fields = .empty

/-- An event that puts a configuration into the draft, as it is or as it was saved. -/
def Applies (s : Session) (config : Config) : Event machine → Prop
  | .started (Command.applyDraft given) => given = config
  | .resumed (Suspension.entryFields _ generation entry) reply =>
    entry.config = config ∧ s.TakesLoad generation reply
  | _ => False

/-- An event that may make an object the one of the draft. -/
def Chooses (object : String) : Event machine → Prop
  | .started (Command.selectObject name) => name.getD "" = object
  | .started Command.new => object = ""
  | .started (Command.applyDraft config) => config.object = object
  | .resumed (Suspension.entryFields _ _ entry) _ => entry.config.object = object
  | .resumed (Suspension.deleting _) _ => object = ""
  | _ => False

private theorem object_of_applies {config : Config} (step : Step x e y)
    (h : Applies x.state config e) : y.state.draft.object = config.object := by
  cases step with
  | start s before after c =>
    cases c with
    | applyDraft given =>
      cases h
      exact congrArg Draft.object (s.applyDraft_draft _)
    | _ => exact h.elim
  | resume s before after p reply =>
    cases p with
    | entryFields id generation entry =>
      obtain ⟨rfl, taken⟩ := h
      obtain ⟨fields, hd⟩ := draft_of_taken_load s id entry taken
      exact (congrArg Draft.object hd).trans (Draft.ofSaved_object _ _ _ _)
    | _ => exact h.elim

private theorem object_step {object : String} (step : Step x e y) (h : ¬ Chooses object e)
    (hx : x.state.draft.object ≠ object) : y.state.draft.object ≠ object := by
  have revision := revision_of_step step
  generalize y.state.draft = d at revision ⊢
  cases revision with
  | edited edit =>
    rw [edit.object]
    exact hx
  | deselected hn => exact fun ho ↦ h (hn.trans ho)
  | selected hn => exact fun ho ↦ h ho
  | renewed => exact fun ho ↦ h ho.symm
  | applied => exact fun ho ↦ h ho
  | deleted => exact fun ho ↦ h ho.symm
  | loadedBare =>
    rw [Draft.ofSaved_object]
    exact fun ho ↦ h ho
  | loaded =>
    rw [Draft.ofSaved_object]
    exact fun ho ↦ h ho
  | _ => exact hx

/-- An object that is not the one of the draft does not become it until it is chosen. -/
private theorem object_run {object : String} (run : Run x es y)
    (unchosen : ∀ e ∈ es, ¬ Chooses object e) (hx : x.state.draft.object ≠ object) :
    y.state.draft.object ≠ object := by
  refine run.invariant (I := fun _ (z : Scene machine) ↦ z.state.draft.object ≠ object)
    unchosen hx ?_
  intro es z e z' hz he step
  exact object_step step he hz

-- No generation is compared here, only the object: a load or a draft of the same object in between
-- makes no difference.
private theorem same_columns_iff {requested : String}
    {reply : Except Failure (List DiscoveredField)}
    (step : Step x (.resumed (Suspension.fields requested) reply) y) :
    x.state.draft.SameColumns y.state.draft ↔
      (x.state.draft.object = requested →
        x.state.draft.HasColumns (Session.discovered reply)) := by
  have revision := revision_of_step step
  generalize y.state.draft = d at revision ⊢
  cases revision with
  | kept other => exact absurd rfl (other requested)
  | superseded other => exact ⟨fun _ h ↦ absurd h other, fun _ ↦ ⟨rfl, rfl⟩⟩
  | broken hd hf =>
    rw [hd]
    refine ⟨fun _ _ h ↦ ?_, fun _ ↦ ⟨rfl, rfl⟩⟩
    rw [hf] at h
    cases h
  | undiscovered hd hf =>
    rw [hd]
    exact ⟨fun same _ _ ↦ same.1.symm, fun has ↦ ⟨(has rfl hf).symm, rfl⟩⟩
  | taken hd =>
    rw [hd]
    exact ⟨fun same _ ↦ same, fun has ↦ has rfl⟩

/-- Once a configuration was put into the draft, a selection that goes on leaves the fields and the
field to sort by as they are exactly if its object is not the one of the draft, or the draft has
already what would be put into it. It does so if the configuration is one of another object, and
the object of the selection was not chosen since. -/
theorem same_columns_after_applied_iff {config : Config} {requested : String}
    {reply : Except Failure (List DiscoveredField)} (first : Step x₀ e x₁)
    (applies : Applies x₀.state config e) (run : Run x₁ es x)
    (step : Step x (.resumed (Suspension.fields requested) reply) y) :
    (x.state.draft.SameColumns y.state.draft ↔
        (x.state.draft.object = requested →
          x.state.draft.HasColumns (Session.discovered reply))) ∧
      (config.object ≠ requested → (∀ e ∈ es, ¬ Chooses requested e) →
        x.state.draft.SameColumns y.state.draft) := by
  refine ⟨same_columns_iff step, fun other unchosen ↦ (same_columns_iff step).mpr fun ho ↦ ?_⟩
  have hx₁ : x₁.state.draft.object ≠ requested := by
    rw [object_of_applies first applies]
    exact other
  exact absurd ho (object_run run unchosen hx₁)

/-- The scene after a draft of one object was taken over while another object was being selected. -/
def overtakenScene : Scene machine :=
  ((opening none).start (Command.selectObject (some "Account"))).start
    (Command.applyDraft (contactDraft ""))

theorem overtakenScene_columns :
    overtakenScene.state.draft.fields.names = ["Id"] ∧
      overtakenScene.state.draft.SameColumns
        (overtakenScene.resume [] [] (.fields "Account")
          (SchemaSource.contacts.look "Account")).state.draft := by
  have first : Step ((opening none).start (.selectObject (some "Account")))
      (.started (Command.applyDraft (contactDraft ""))) overtakenScene := Scene.step_start _ _
  have step : Step overtakenScene
      (.resumed (Suspension.fields "Account") (SchemaSource.contacts.look "Account"))
      (overtakenScene.resume [] [] (.fields "Account") (SchemaSource.contacts.look "Account")) :=
    overtakenScene.step_resume [] [] (.fields "Account") rfl _
  refine ⟨rfl, (same_columns_after_applied_iff first rfl .nil step).2 ?_ ?_⟩
  · decide
  · exact fun _ h ↦ absurd h List.not_mem_nil

/-- A saved configuration that shows one field. -/
def contactEntry : SavedConfig :=
  ⟨7, "Contacts", none, "Contact", "U1", true, contactDraft ""⟩

/-- The answer of the store with this configuration. -/
def foundEntry : Except Failure (Option SavedConfig) := .ok (some contactEntry)

/-- The scene after this configuration was loaded while its object was being selected. -/
def reloadedScene : Scene machine :=
  ((((opening none).start (Command.selectObject (some "Contact"))).start
    (Command.loadConfig (some 7))).resume [.fields "Contact"] [] (.entry (some 7) 1)
      foundEntry).resume [.fields "Contact"] [] (.entryFields (some 7) 1 contactEntry)
        (SchemaSource.contacts.look "Contact")

private theorem run_reloadedScene : Run (opening none)
    [.started (.selectObject (some "Contact")), .started (.loadConfig (some 7)),
      .resumed (Suspension.entry (some 7) 1) foundEntry,
      .resumed (Suspension.entryFields (some 7) 1 contactEntry)
        (SchemaSource.contacts.look "Contact")] reloadedScene := by
  have opened : Run (opening none) [] (opening none) := .nil
  exact (((opened.start (.selectObject (some "Contact"))).start
    (.loadConfig (some 7))).resume [.fields "Contact"] [] (.entry (some 7) 1) rfl
      foundEntry).resume [.fields "Contact"] [] (.entryFields (some 7) 1 contactEntry) rfl
        (SchemaSource.contacts.look "Contact")

/-- A selection that was started before a configuration of its object was loaded shows the fields
that are hidden in the configuration. -/
theorem exists_selection_shows_hidden_fields :
    ∃ x y : Scene machine,
      Run (opening none) [.started (.selectObject (some "Contact")),
        .started (.loadConfig (some 7)), .resumed (Suspension.entry (some 7) 1) foundEntry,
        .resumed (Suspension.entryFields (some 7) 1 contactEntry)
          (SchemaSource.contacts.look "Contact")] x ∧
      Step x (.resumed (Suspension.fields "Contact") (SchemaSource.contacts.look "Contact")) y ∧
        x.state.draft.fields.visible.map Field.name = ["Id"] ∧
          y.state.draft.fields.visible.map Field.name = ["Id", "Email"] := by
  have step : Step reloadedScene
      (.resumed (Suspension.fields "Contact") (SchemaSource.contacts.look "Contact"))
      (reloadedScene.resume [] [] (.fields "Contact") (SchemaSource.contacts.look "Contact")) :=
    reloadedScene.step_resume [] [] (.fields "Contact") rfl _
  exact ⟨reloadedScene, _, run_reloadedScene, step, rfl, rfl⟩

end TableView.Editor
