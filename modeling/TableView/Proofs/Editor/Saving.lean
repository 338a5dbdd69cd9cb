import TableView.Proofs.Config.Draft
import TableView.Proofs.Editor.Replacement
import TableView.Proofs.Editor.Suspension
import TableView.Proofs.Editor.Upkeep

/-!
# What may be saved of a draft

Two things hold of a draft after every run, whichever replies came first.

A draft with fields is sorted by one of them, if by any. Wherever the fields are put in the place of
others, the sort field is looked for among them, or there are no fields left; no edit drops a field,
and only a field of the draft is taken for the sort field. So it is with every configuration that is
handed to the store (`sortField_of_run`).

The name of a draft is trimmed: a save and a load bring trimmed names, and a copy puts a mark at the
end of the name that there is. So it makes no difference that the name is trimmed before it is
looked at in a save, but not when it is asked whether saving is offered: saving is not offered
exactly if it would be refused (`saveDisabled_iff_refused`).
-/

namespace TableView.Editor

open TableView.Task (Event Run Scene Step)

variable {x y : Scene machine} {e : Event machine} {es : List (Event machine)}

/-! ### The sort field -/

theorem Draft.Sorted.mem_names {d : Draft} (sorted : d.Sorted) (filled : d.fields ≠ .empty)
    {name : String} (h : d.sortField = some name) : name ∈ d.fields.names := by
  have known := sorted.resolve_left filled
  rw [h, Session.known, Option.filter_eq_some_iff] at known
  exact (FieldList.has_iff _ _).mp known.2

/-- A draft that is loaded is sorted by one of the given fields, or there are none. -/
private theorem Draft.ofSaved_sorted (d : Draft) (entry : SavedConfig) (fields : FieldList)
    (id : Option Int) : (d.ofSaved entry fields id).Sorted := by
  obtain ⟨name, description, loaded⟩ := d.exists_ofSaved entry fields id
  rw [loaded]
  exact .inr (Session.known_known _ _)

namespace Session

variable (s : Session)

private theorem selectObject_sorted (name : String) (h : s.draft.Sorted) :
    (s.selectObject name).1.draft.Sorted := by
  by_cases hn : name = ""
  · subst hn
    exact .inl rfl
  · rw [s.selectObject_of_ne_empty name hn]
    exact h

theorem start_sorted (c : Command) (h : s.draft.Sorted) : (s.start c).1.draft.Sorted := by
  have edited (unselected : ∀ name, c ≠ .selectObject name) (kept : c ≠ .new)
      (undrafted : ∀ config, c ≠ .applyDraft config)
      (labelled : ∀ name, c ≠ .setFieldLabel name "") : (s.start c).1.draft.Sorted :=
    (s.start_edits c unselected kept undrafted labelled).sorted h
  cases c with
  | selectObject name => exact selectObject_sorted s _ h
  | new => exact .inl rfl
  | applyDraft config =>
    have applied : (s.start (.applyDraft config)).1.draft =
        s.draft.configured config (.ofSaved config.fields) none := s.applyDraft_draft config
    rw [applied]
    exact .inr (known_known _ _)
  | setFieldLabel name label => exact h.of_names (.of_eq (FieldList.names_setLabel _ _ _)) rfl
  | _ =>
    exact edited (fun _ he ↦ nomatch he) (fun he ↦ nomatch he) (fun _ he ↦ nomatch he)
      fun _ he ↦ nomatch he

theorem resume_sorted (p : Suspension) (reply : p.call.Reply) (h : s.draft.Sorted) :
    (s.resume p reply).1.draft.Sorted := by
  have revision := s.resume_revision p reply
  generalize (s.resume p reply).1.draft = d at revision ⊢
  cases revision with
  | kept => exact h
  | superseded => exact h
  | broken => exact h
  | undiscovered => exact .inl rfl
  | taken => exact .inr (known_known _ _)
  | loadedBare => exact s.draft.ofSaved_sorted _ _ _
  | loaded => exact s.draft.ofSaved_sorted _ _ _
  | saved => exact h.of_names (.refl _) rfl
  | deleted => exact .inl rfl

end Session

theorem sorted_step (step : Step x e y) (h : x.state.draft.Sorted) : y.state.draft.Sorted := by
  cases step with
  | start s before after c => exact s.start_sorted c h
  | resume s before after p reply => exact s.resume_sorted p reply h

theorem sorted_of_run (viewer : Option String) (run : Run (opening viewer) es x) :
    x.state.draft.Sorted :=
  run.invariant (A := fun _ ↦ True) (I := fun _ (y : Scene machine) ↦ y.state.draft.Sorted)
    (fun _ _ ↦ trivial) (.inl rfl) fun _ _ _ _ h _ step ↦ sorted_step step h

/-- A draft that may be saved has a field, so it is saved with a sort field that is one of its
fields, if with any. -/
private theorem sortField_toConfig {s : Session} {name field : String} (sorted : s.draft.Sorted)
    (savable : s.Savable name) (h : s.toConfig.sortField = some field) :
    field ∈ s.toConfig.fields.map SavedField.name := by
  have names : s.toConfig.fields.map SavedField.name = s.draft.fields.names :=
    FieldList.names_toSaved _
  rw [names]
  exact sorted.mem_names (FieldList.ne_empty_of_anyVisible savable.2.2) h

/-- What is being saved was the draft when its save was started, whatever became of the draft. -/
private theorem sortField_of_saving (viewer : Option String) (run : Run (opening viewer) es x)
    {config : Config} {name description : String} {id : Option Int}
    (hp : .saving config name description id ∈ x.waiting) {field : String}
    (h : config.sortField = some field) : field ∈ config.fields.map SavedField.name := by
  induction run with
  | nil => nomatch hp
  | snoc run step ih =>
    rcases suspends_of_step step hp with old | new
    · exact ih old
    · cases new with
      | saving savable => exact sortField_toConfig (sorted_of_run viewer run) savable h

/-- After every run a draft that has fields is sorted by one of them or by none, and so is every
configuration that is being saved. A draft whose fields were cleared may keep its sort field; it
goes when there are fields again. -/
theorem sortField_of_run (viewer : Option String) (run : Run (opening viewer) es x) :
    (x.state.draft.fields ≠ .empty →
        ∀ field ∈ x.state.draft.sortField, field ∈ x.state.draft.fields.names) ∧
      ∀ config name description id, .saving config name description id ∈ x.waiting →
        ∀ field ∈ config.sortField, field ∈ config.fields.map SavedField.name := by
  refine ⟨fun filled field h ↦ ?_, fun config name description id hp field h ↦ ?_⟩
  · exact (sorted_of_run viewer run).mem_names filled h
  · exact sortField_of_saving viewer run hp h

/-- The scene after a sort field was chosen while another object is being selected. -/
def sortedScene : Scene machine :=
  SchemaSource.switchedScene.start
    (Command.setDefaultSort (some "Industry") (.text "asc"))

/-- The save of this draft. -/
def industrySave : Suspension :=
  .saving sortedScene.state.toConfig "Industries" "" none

/-- The scene after the fields of the other object have come while this draft was being saved. -/
def resortedScene : Scene machine :=
  (sortedScene.start (Command.saveConfig (some "Industries") none)).resume [] [industrySave]
    (.fields "Contact") (SchemaSource.contacts.look "Contact")

private theorem run_sortedScene : ∃ es, Run (opening none) es sortedScene := by
  have opened : Run (opening none) [] (opening none) := .nil
  exact ⟨_, (((opened.start (.selectObject (some "Account"))).resume [] [] (.fields "Account") rfl
    (SchemaSource.contacts.look "Account")).start (.selectObject (some "Contact"))).start
      (.setDefaultSort (some "Industry") (.text "asc"))⟩

theorem resortedScene_sortField :
    "Industry" ∈ sortedScene.state.draft.fields.names ∧
      resortedScene.state.draft.fields.names = ["Id", "Email"] ∧
      resortedScene.state.draft.sortField = none ∧
      sortedScene.state.toConfig.sortField = some "Industry" ∧
      "Industry" ∈ sortedScene.state.toConfig.fields.map SavedField.name := by
  obtain ⟨es, sorted⟩ := run_sortedScene
  have run : Run (opening none) _ resortedScene :=
    (sorted.start (.saveConfig (some "Industries") none)).resume [] [industrySave]
      (.fields "Contact") rfl (SchemaSource.contacts.look "Contact")
  have waits : industrySave ∈ resortedScene.waiting := List.mem_singleton_self _
  have filled : sortedScene.state.draft.fields ≠ .empty :=
    fun h ↦ absurd (congrArg FieldList.names h) (by decide)
  exact ⟨(sortField_of_run none sorted).1 filled "Industry" rfl, rfl, rfl, rfl,
    (sortField_of_run none run).2 _ _ _ _ waits "Industry" rfl⟩

/-! ### Names -/

/-- Whether the saved configurations that are found are as their schema admits them; every store
finds such ones only (`Store.valid_of_get`). All other calls may be answered at will. -/
def ValidEntries : (c : Call) → c.Reply → Prop
  | .config _, reply => ∀ entry, reply = .ok (some entry) → entry.Valid
  | _, _ => True

/-- Every name at hand is trimmed: that of the draft, those under which drafts are being saved, and
those of the configurations that are being loaded. -/
structure Trimmed (x : Scene machine) : Prop where
  draft : Text.trim x.state.draft.name = x.state.draft.name
  saves : ∀ config name description id, .saving config name description id ∈ x.waiting →
    Text.trim name = name
  loads : ∀ id generation entry, .entryFields id generation entry ∈ x.waiting →
    Text.trim entry.name = entry.name

/-- A copy has a name if the draft had one, and then what is put at its end leaves it trimmed. -/
private theorem trim_copied_name (s : Session) (h : Text.trim s.draft.name = s.draft.name) :
    Text.trim s.copied.draft.name = s.copied.draft.name := by
  have name : s.copied.draft.name =
      if s.draft.name = "" then "" else s.draft.name ++ " (Copy)" := rfl
  rw [name]
  split
  · rfl
  · next named => exact Text.trim_append h named (by decide) (by decide)

theorem trimmed_opening (viewer : Option String) : Trimmed (opening viewer) where
  draft := rfl
  saves _ _ _ _ h := nomatch h
  loads _ _ _ h := nomatch h

/-- A load brings a trimmed name, or leaves the one that there is. -/
private theorem trim_ofSaved_name (h : Trimmed x) {entry : SavedConfig} {fields : FieldList}
    {id : Option Int} (trimmed : Text.trim entry.name = entry.name) :
    Text.trim (x.state.draft.ofSaved entry fields id).name =
      (x.state.draft.ofSaved entry fields id).name := by
  rcases x.state.draft.ofSaved_name entry fields id with taken | kept
  · rw [taken]
    exact trimmed
  · rw [kept]
    exact h.draft

private theorem trim_draft_name (step : Step x e y) (h : Trimmed x) :
    Text.trim y.state.draft.name = y.state.draft.name := by
  have revision := revision_of_step step
  generalize hd : y.state.draft = d at revision ⊢
  cases revision with
  | edited edit =>
    rw [edit.name]
    exact h.draft
  | copied name =>
    cases step with
    | start s before after =>
      have copied : (s.start .clone).1.draft = s.copied.draft := s.clone_draft
      have same : s.copied.draft.name = name := congrArg Draft.name (copied.symm.trans hd)
      rw [← same]
      exact trim_copied_name s h.draft
  | renewed => rfl
  | deleted => rfl
  | loadedBare => exact trim_ofSaved_name h (h.loads _ _ _ step.mem_of_resumed)
  | loaded => exact trim_ofSaved_name h (h.loads _ _ _ step.mem_of_resumed)
  | saved => exact h.saves _ _ _ _ step.mem_of_resumed
  | _ => exact h.draft

/-- Every event leaves the names trimmed. -/
theorem trimmed_step (step : Step x e y) (answer : e.Obeys ValidEntries) (h : Trimmed x) :
    Trimmed y where
  draft := trim_draft_name step h
  saves config name description id hp := by
    rcases suspends_of_step step hp with old | new
    · exact h.saves config name description id old
    · cases new with
      | saving => exact Text.trim_trim _
  loads id generation entry hp := by
    rcases suspends_of_step step hp with old | new
    · exact h.loads id generation entry old
    · cases new with
      | entryFields =>
        have valid : entry.Valid := answer entry rfl
        exact valid.trimmed

theorem trimmed_of_run (viewer : Option String) (run : Run (opening viewer) es x)
    (answered : ∀ e ∈ es, e.Obeys ValidEntries) : Trimmed x :=
  run.invariant (I := fun _ y ↦ Trimmed y) answered (trimmed_opening viewer)
    fun _ _ _ _ h answer step ↦ trimmed_step step answer h

/-- After every run in which valid configurations were found, saving is not offered exactly if a
save of the draft as it is would be refused before the store is called. Such a save changes nothing,
and any other hands over the draft under its own name. -/
theorem saveDisabled_iff_refused (viewer : Option String) (run : Run (opening viewer) es x)
    (answered : ∀ e ∈ es, e.Obeys ValidEntries) :
    (x.state.saveDisabled = true ↔ ∃ e : Error, e.family = .validation ∧
        (x.state.start (.saveConfig none none)).2 = .finished (.error (.engine e))) ∧
      (x.state.saveDisabled = true → (x.state.start (.saveConfig none none)).1 = x.state) ∧
      (x.state.saveDisabled = false → (x.state.start (.saveConfig none none)).2 =
        .pending (.saving x.state.toConfig x.state.draft.name x.state.draft.description
          x.state.draft.configId)) := by
  have trimmed := (trimmed_of_run viewer run answered).draft
  have start : x.state.start (.saveConfig none none) = x.state.saveConfig none none := rfl
  rw [start]
  have outcome := x.state.saveConfig_cases none none
  rw [Option.getD_none, Option.getD_none, trimmed] at outcome
  rcases outcome with ⟨unsavable, e, family, refused⟩ | ⟨savable, handed⟩
  · have disabled : x.state.saveDisabled = true := x.state.saveDisabled_iff.mpr unsavable
    rw [refused, disabled]
    exact ⟨iff_of_true rfl ⟨e, family, rfl⟩, fun _ ↦ rfl, nofun⟩
  · have enabled : x.state.saveDisabled = false :=
      Bool.eq_false_iff.mpr fun disabled ↦ x.state.saveDisabled_iff.mp disabled savable
    rw [handed, enabled]
    refine ⟨iff_of_false nofun ?_, nofun, fun _ ↦ rfl⟩
    rintro ⟨e, -, ⟨⟩⟩

/-- The scene after a saved configuration was loaded and copied. -/
def copiedScene : Scene machine :=
  ((((opening none).start (Command.loadConfig (some 7))).resume [] [] (.entry (some 7) 1)
    foundEntry).resume [] [] (.entryFields (some 7) 1 contactEntry)
      (SchemaSource.contacts.look "Contact")).start Command.clone

/-- The scene after all fields of the copy were hidden. -/
def hiddenScene : Scene machine := copiedScene.start (Command.setAllVisible false)

private theorem run_copiedScene :
    ∃ es, Run (opening none) es copiedScene ∧ ∀ e ∈ es, e.Obeys ValidEntries := by
  have opened : Run (opening none) [] (opening none) := .nil
  have run : Run (opening none) _ copiedScene :=
    (((opened.start (.loadConfig (some 7))).resume [] [] (.entry (some 7) 1) rfl
      foundEntry).resume [] [] (.entryFields (some 7) 1 contactEntry) rfl
        (SchemaSource.contacts.look "Contact")).start .clone
  have valid : contactEntry.Valid := ⟨by decide +kernel, by decide⟩
  refine ⟨_, run, ?_⟩
  simp only [List.nil_append, List.cons_append, List.mem_cons, List.not_mem_nil, or_false,
    forall_eq_or_imp, forall_eq]
  refine ⟨trivial, ?_, trivial, trivial⟩
  rintro entry ⟨⟩
  exact valid

/-- The copy of a saved configuration may be saved under its own name, until no field of it is
visible any more. -/
theorem copiedScene_saving :
    (copiedScene.state.start (.saveConfig none none)).2 =
        .pending (.saving copiedScene.state.toConfig "Contacts (Copy)" "" none) ∧
      hiddenScene.state.draft.name = "Contacts (Copy)" ∧
      ∃ e : Error, e.family = .validation ∧
        (hiddenScene.state.start (.saveConfig none none)).2 =
          .finished (.error (.engine e)) := by
  obtain ⟨es, run, answered⟩ := run_copiedScene
  have hidden : Run (opening none) _ hiddenScene := run.start (.setAllVisible false)
  have answered' : ∀ e ∈ es ++ [.started (Command.setAllVisible false)],
      e.Obeys ValidEntries := by
    intro e he
    rcases List.mem_append.mp he with old | new
    · exact answered e old
    · rw [List.mem_singleton.mp new]
      trivial
  exact ⟨(saveDisabled_iff_refused none run answered).2.2 rfl, rfl,
    (saveDisabled_iff_refused none hidden answered').1.mp rfl⟩

end TableView.Editor
