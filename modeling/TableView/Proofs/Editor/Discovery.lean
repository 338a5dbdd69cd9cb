import TableView.Proofs.Editor.Revision

/-!
# Fields belong to one object

A schema source that always says the same of the fields of an object. Whatever operations a session
runs short of taking over a draft as it is, and in whatever order their replies come, the fields of
the draft are all fields of one object, each of them once, or there are none. They are those of the
object of the draft, unless its selection still waits for them or has failed for another reason than
discovery (`placed_of_run`).

So they are those of the object once none of its selections is suspended (`fields_of_object`). A
configuration that is saved in between may list the fields of another object
(`handed_fields_of_object`, `exists_handed_fields_of_other_object`).
-/

namespace TableView.Editor

open TableView.Task (Event Run Scene Step mem_of_mem_between)

/-- What discovery says of the fields of objects: which there are, or a failure. -/
structure SchemaSource where
  look : String → Except Failure (List DiscoveredField)

namespace SchemaSource

variable (source : SchemaSource)

/-- Whether fields are answered from the source. All other calls may be answered at will. -/
def Answers : (c : Call) → c.Reply → Prop
  | .fields object, reply => reply = source.look object
  | _, _ => True

/-- Whether an object has a field of the name. -/
def Reports (object name : String) : Prop :=
  ∃ found, source.look object = .ok found ∧ name ∈ found.map DiscoveredField.name

/-- The names of all fields of an object, each once, in any order. -/
def Lists (object : String) (names : List String) : Prop :=
  names.Nodup ∧ ∃ found, source.look object = .ok found ∧
    names.Perm (found.map DiscoveredField.name).dedup

/-- Whether the fields of an object are not to be had for another reason than discovery. -/
def Breaks (object : String) : Prop :=
  ∃ f, source.look object = .error f ∧ Session.isDiscovery f = false

/-- There are no fields, or all fields of one object: of the object of the draft, unless its own
fields are asked for or not to be had. -/
def Placed (d : Draft) (waiting : List Suspension) : Prop :=
  d.fields = .empty ∨ ∃ object, source.Lists object d.fields.names ∧
    (object = d.object ∨ .fields d.object ∈ waiting ∨ source.Breaks d.object)

variable {source}

theorem Lists.perm {object : String} {names others : List String}
    (h : source.Lists object names) (same : others.Perm names) : source.Lists object others := by
  obtain ⟨nodup, found, hf, hp⟩ := h
  exact ⟨same.nodup_iff.mpr nodup, found, hf, same.trans hp⟩

theorem Lists.reports {object name : String} {names : List String}
    (h : source.Lists object names) (hn : name ∈ names) : source.Reports object name := by
  obtain ⟨-, found, hf, hp⟩ := h
  exact ⟨found, hf, List.mem_dedup.mp (hp.mem_iff.mp hn)⟩

theorem exists_of_discovered {object : String} {live : FieldList}
    (h : Session.discovered (source.look object) = .ok live) :
    ∃ found, source.look object = .ok found ∧ FieldList.ofDiscovered found = .ok live := by
  cases hl : source.look object with
  | error f =>
    rw [hl] at h
    cases h
  | ok found =>
    refine ⟨found, rfl, ?_⟩
    rw [hl] at h
    cases ho : FieldList.ofDiscovered found with
    | error e =>
      simp only [Session.discovered, ho] at h
      cases h
    | ok fields =>
      simp only [Session.discovered, ho] at h
      cases h
      rfl

/-- The fields that are discovered are those that the source lists. -/
theorem lists_of_discovered {object : String} {live : FieldList}
    (h : Session.discovered (source.look object) = .ok live) : source.Lists object live.names := by
  obtain ⟨found, hl, ho⟩ := exists_of_discovered h
  exact ⟨FieldList.nodup_names_ofDiscovered ho, found, hl, FieldList.names_ofDiscovered_perm ho⟩

theorem breaks_of_discovered {object : String} {f : Failure}
    (h : Session.discovered (source.look object) = .error f)
    (hf : Session.isDiscovery f = false) : source.Breaks object := by
  cases hl : source.look object with
  | error g =>
    rw [hl] at h
    cases h
    exact ⟨f, hl, hf⟩
  | ok found =>
    rw [hl] at h
    have hd := Session.isDiscovery_of_discovered (.ok found) (fun _ he ↦ nomatch he) f h
    rw [hf] at hd
    cases hd

/-! ### Steps -/

private theorem Placed.of_same {d d' : Draft} {w w' : List Suspension} (h : source.Placed d w)
    (object : d'.object = d.object) (names : d'.fields.names.Perm d.fields.names)
    (stay : .fields d.object ∈ w → .fields d.object ∈ w') : source.Placed d' w' := by
  rcases h with empty | ⟨origin, lists, same⟩
  · rw [empty] at names
    exact .inl (FieldList.eq_empty_of_names_perm names)
  · rw [Placed, object]
    exact .inr ⟨origin, lists.perm names, same.imp_right (Or.imp_left stay)⟩

private theorem placed_reconcile {object : String} {live : FieldList} {d : Draft}
    {w : List Suspension} (saved : List SavedField)
    (h : Session.discovered (source.look object) = .ok live) (ho : d.object = object)
    (hf : d.fields = .reconcile saved live) : source.Placed d w := by
  obtain ⟨nodup, -⟩ := lists_of_discovered h
  refine .inr ⟨object, ?_, .inl ho.symm⟩
  rw [hf]
  exact (lists_of_discovered h).perm (FieldList.names_reconcile_perm saved live nodup)

private theorem asked_of_step {x y : Scene machine} {name : String} (hn : name ≠ "")
    (step : Step x (.started (Command.selectObject (some name))) y) :
    .fields name ∈ y.waiting := by
  cases step with
  | start s before after =>
    refine mem_of_mem_between before after ?_
    change .fields name ∈ (s.selectObject name).2.waiting
    rw [s.selectObject_of_ne_empty name hn]
    exact List.mem_singleton_self _

/-- Every event keeps the fields in their place, but for taking over a draft as it is. -/
theorem placed_step {x y : Scene machine} {e : Event machine} (step : Step x e y)
    (plain : ∀ config, e ≠ .started (Command.applyDraft config)) (answer : e.Obeys source.Answers)
    (h : source.Placed x.state.draft x.waiting) : source.Placed y.state.draft y.waiting := by
  have stay (object : String) (other : ∀ reply, e ≠ .resumed (Suspension.fields object) reply)
      (hw : .fields object ∈ x.waiting) : .fields object ∈ y.waiting := step.mem_waiting hw other
  -- Case by case over what an event makes of the draft: the third way to be in place is what the
  -- start of a selection and a failed reply leave open.
  have revision := revision_of_step step
  generalize y.state.draft = d at revision ⊢
  cases revision with
  | edited edit => exact h.of_same edit.object edit.names (stay _ fun _ h ↦ nomatch h)
  | limited => exact h.of_same rfl (.refl _) (stay _ fun _ h ↦ nomatch h)
  | deselected => exact .inl rfl
  | selected hn =>
    -- The fields of the object before stay, under the name of the one whose fields are asked for.
    rcases h with empty | ⟨origin, lists, -⟩
    · exact .inl empty
    · exact .inr ⟨origin, lists, .inr (.inl (asked_of_step hn step))⟩
  | renewed => exact .inl rfl
  | copied name => exact h.of_same rfl (.refl _) (stay _ fun _ h ↦ nomatch h)
  | applied config => exact absurd rfl (plain config)
  | kept other =>
    refine h.of_same rfl (.refl _) (stay _ ?_)
    rintro reply ⟨⟩
    exact other _ rfl
  | superseded other =>
    refine h.of_same rfl (.refl _) (stay _ ?_)
    rintro reply ⟨⟩
    exact other rfl
  | @broken reply f hd hf =>
    -- Nothing clears them here, and nothing is asked for any more.
    have hr : reply = source.look x.state.draft.object := answer
    rw [hr] at hd
    rcases h with empty | ⟨origin, lists, -⟩
    · exact .inl empty
    · exact .inr ⟨origin, lists, .inr (.inr (breaks_of_discovered hd hf))⟩
  | undiscovered => exact .inl rfl
  | @taken reply live hd =>
    have hr : reply = source.look x.state.draft.object := answer
    rw [hr] at hd
    exact .inr ⟨_, lists_of_discovered hd, .inl rfl⟩
  | @loadedBare id entry =>
    obtain ⟨name, description, taken⟩ := x.state.draft.exists_ofSaved entry .empty id
    rw [taken]
    exact .inl rfl
  | @loaded id entry live reply hd =>
    have hr : reply = source.look entry.config.object := answer
    rw [hr] at hd
    obtain ⟨name, description, taken⟩ :=
      x.state.draft.exists_ofSaved entry (.reconcile entry.config.fields live) id
    rw [taken]
    exact placed_reconcile entry.config.fields hd rfl rfl
  | saved => exact h.of_same rfl (.refl _) (stay _ fun _ h ↦ nomatch h)
  | deleted => exact .inl rfl

/-- After every run in which no draft was taken over as it is, the fields are in their place. -/
theorem placed_of_run (viewer : Option String) {es : List (Event machine)} {x : Scene machine}
    (run : Run (opening viewer) es x)
    (undrafted : ∀ config, .started (Command.applyDraft config) ∉ es)
    (answered : ∀ e ∈ es, e.Obeys source.Answers) : source.Placed x.state.draft x.waiting := by
  refine run.invariant
    (A := fun e ↦ (∀ config, e ≠ .started (Command.applyDraft config)) ∧ e.Obeys source.Answers)
    (I := fun _ (y : Scene machine) ↦ source.Placed y.state.draft y.waiting) ?_ (.inl rfl) ?_
  · refine fun e he ↦ ⟨?_, answered e he⟩
    rintro config rfl
    exact undrafted config he
  · intro es y e z h may step
    exact placed_step step may.1 may.2 h

end SchemaSource

/-! ### Superseded discoveries -/

/-- A suspended operation asks for the fields of an object that is not selected any more, or for a
load that is not the last one any more. -/
def Session.Superseded (s : Session) : Suspension → Prop
  | .fields requested => s.draft.object ≠ requested
  | .entryFields _ generation _ => s.generation ≠ generation
  | _ => False

/-- A superseded discovery changes nothing of the draft, however it ends. -/
theorem draft_of_superseded {x y : Scene machine} {p : Suspension} {reply : p.call.Reply}
    (step : Step x (.resumed p reply) y) (h : x.state.Superseded p) :
    y.state.draft = x.state.draft := by
  have revision := revision_of_step step
  generalize y.state.draft = d at revision ⊢
  cases revision with
  | kept => rfl
  | superseded => rfl
  | broken => rfl
  | undiscovered => exact absurd rfl h
  | taken => exact absurd rfl h
  | loadedBare => exact absurd rfl h
  | loaded => exact absurd rfl h
  | saved => exact h.elim
  | deleted => exact h.elim

namespace SchemaSource

variable (source : SchemaSource) {es : List (Event machine)} {x : Scene machine}

/-- If fields are not to be had only when discovery fails, then at any time the fields of the draft
are all fields of one object or none, those of its own object when no selection of it is suspended,
and a superseded discovery does not change them. -/
theorem fields_of_object (viewer : Option String)
    (discovery : ∀ object f, source.look object = .error f → Session.isDiscovery f = true)
    (run : Run (opening viewer) es x)
    (undrafted : ∀ config, .started (Command.applyDraft config) ∉ es)
    (answered : ∀ e ∈ es, e.Obeys source.Answers) :
    (x.state.draft.fields = .empty ∨
        ∃ object, source.Lists object x.state.draft.fields.names) ∧
      (.fields x.state.draft.object ∉ x.waiting → x.state.draft.fields = .empty ∨
        source.Lists x.state.draft.object x.state.draft.fields.names) ∧
      ∀ (p : Suspension) (reply : p.call.Reply) (y : Scene machine), x.state.Superseded p →
        Step x (.resumed p reply) y → y.state.draft = x.state.draft := by
  have placed := placed_of_run viewer run undrafted answered
  refine ⟨?_, fun idle ↦ ?_, fun p reply y h step ↦ draft_of_superseded step h⟩
  · exact placed.imp_right fun ⟨object, lists, _⟩ ↦ ⟨object, lists⟩
  · rcases placed with empty | ⟨object, lists, same | asked | ⟨f, hf, hd⟩⟩
    · exact .inl empty
    · rw [same] at lists
      exact .inr lists
    · exact absurd asked idle
    · rw [discovery _ f hf] at hd
      cases hd

/-- A source with two objects that have one field in common. -/
def contacts : SchemaSource where
  look
    | "Account" => .ok [⟨"Id", "Id"⟩, ⟨"Industry", "Industry"⟩]
    | "Contact" => .ok [⟨"Id", "Id"⟩, ⟨"Email", "Email"⟩]
    | object => .error (.engine (.unknownObject (some object)))

private theorem contacts_discovery (object : String) (f : Failure)
    (h : contacts.look object = .error f) : Session.isDiscovery f = true := by
  simp only [contacts] at h
  split at h
  · cases h
  · cases h
  · cases h
    rfl

/-- The scene after one object was selected and another one while the fields of the first were asked
for, of which the fields of the second came first. -/
def reselectedScene : Scene machine :=
  ((((opening none).start (Command.selectObject (some "Account"))).start
    (Command.selectObject (some "Contact"))).resume [.fields "Account"] [] (.fields "Contact")
      (contacts.look "Contact")).resume [] [] (.fields "Account") (contacts.look "Account")

private theorem run_reselectedScene : ∃ es, Run (opening none) es reselectedScene ∧
    (∀ config, .started (Command.applyDraft config) ∉ es) ∧
      ∀ e ∈ es, e.Obeys contacts.Answers := by
  have opened : Run (opening none) [] (opening none) := .nil
  have run : Run (opening none) _ _ :=
    (((opened.start (.selectObject (some "Account"))).start
      (.selectObject (some "Contact"))).resume [.fields "Account"] [] (.fields "Contact") rfl
        (contacts.look "Contact")).resume [] [] (.fields "Account") rfl (contacts.look "Account")
  refine ⟨_, run, fun config h ↦ ?_, ?_⟩
  · simp only [List.nil_append, List.cons_append, List.mem_cons, List.not_mem_nil,
      or_false] at h
    rcases h with he | he | he | he
    · cases he
    · cases he
    · cases he
    · cases he
  · simp only [List.nil_append, List.cons_append, List.mem_cons, List.not_mem_nil, or_false,
      forall_eq_or_imp, forall_eq]
    exact ⟨trivial, trivial, rfl, rfl⟩

theorem reselectedScene_fields : reselectedScene.waiting = [] ∧
    reselectedScene.state.draft.fields.names = ["Id", "Email"] ∧
      contacts.Lists "Contact" reselectedScene.state.draft.fields.names := by
  have names : reselectedScene.state.draft.fields.names = ["Id", "Email"] := rfl
  obtain ⟨es, run, undrafted, answered⟩ := run_reselectedScene
  obtain ⟨-, placed, -⟩ :=
    contacts.fields_of_object none contacts_discovery run undrafted answered
  refine ⟨rfl, names, ?_⟩
  rcases placed List.not_mem_nil with empty | lists
  · rw [empty] at names
    cases names
  · exact lists

end SchemaSource

/-! ### Configurations handed to the store -/

/-- What is handed to the store is the draft, which has a visible field. -/
theorem Session.toConfig_of_handed (s : Session) {name description : Option String}
    {config : Config} {newName newDescription : String} {id : Option Int}
    (handed : (s.start (.saveConfig name description)).2 =
      .pending (.saving config newName newDescription id)) :
    config = s.toConfig ∧ s.draft.fields.anyVisible = true := by
  change (s.saveConfig name description).2 = _ at handed
  rcases s.saveConfig_cases name description with ⟨-, e, -, refused⟩ | ⟨savable, given⟩
  · rw [refused] at handed
    cases handed
  · rw [given] at handed
    cases handed
    exact ⟨rfl, savable.2.2⟩

namespace SchemaSource

variable (source : SchemaSource) {es : List (Event machine)} {x : Scene machine}

/-- A configuration that is handed to the store lists all fields of one object, each once. They are
fields of its own object, unless a selection of that object is suspended or its fields are not to be
had for another reason than discovery. -/
theorem handed_fields_of_object (viewer : Option String) (run : Run (opening viewer) es x)
    (undrafted : ∀ config, .started (Command.applyDraft config) ∉ es)
    (answered : ∀ e ∈ es, e.Obeys source.Answers) {name description : Option String}
    {config : Config} {newName newDescription : String} {id : Option Int}
    (handed : (x.state.start (.saveConfig name description)).2 =
      .pending (.saving config newName newDescription id)) :
    ∃ object, source.Lists object (config.fields.map SavedField.name) ∧
      ((∀ f ∈ config.fields, source.Reports config.object f.name) ∨
        object ≠ config.object ∧
          (.fields config.object ∈ x.waiting ∨ source.Breaks config.object)) := by
  obtain ⟨rfl, shown⟩ := x.state.toConfig_of_handed handed
  have placed := placed_of_run viewer run undrafted answered
  have names : (x.state.toConfig.fields.map SavedField.name) = x.state.draft.fields.names :=
    FieldList.names_toSaved _
  obtain ⟨object, lists, place⟩ := placed.resolve_left (FieldList.ne_empty_of_anyVisible shown)
  rw [← names] at lists
  refine ⟨object, lists, ?_⟩
  by_cases same : object = x.state.draft.object
  · subst same
    exact .inl fun f hf ↦ lists.reports (List.mem_map_of_mem hf)
  · exact .inr ⟨same, place.resolve_left same⟩

private theorem start_reselectedScene :
    (reselectedScene.state.start (.saveConfig (some "Contacts") none)).2 =
      .pending (.saving reselectedScene.state.toConfig "Contacts" "" none) := rfl

theorem reselectedScene_handed :
    reselectedScene.state.toConfig.object = "Contact" ∧
      ∀ f ∈ reselectedScene.state.toConfig.fields, contacts.Reports "Contact" f.name := by
  obtain ⟨es, run, undrafted, answered⟩ := run_reselectedScene
  obtain ⟨object, -, reported | ⟨-, asked | ⟨f, hf, -⟩⟩⟩ :=
    contacts.handed_fields_of_object none run undrafted answered start_reselectedScene
  · exact ⟨rfl, reported⟩
  · cases asked
  · cases hf

/-- The scene after one object was selected and its fields have come, and another one while they
are still shown. -/
def switchedScene : Scene machine :=
  (((opening none).start (Command.selectObject (some "Account"))).resume [] [] (.fields "Account")
    (contacts.look "Account")).start (Command.selectObject (some "Contact"))

private theorem run_switchedScene : ∃ es, Run (opening none) es switchedScene ∧
    (∀ config, .started (Command.applyDraft config) ∉ es) ∧
      ∀ e ∈ es, e.Obeys contacts.Answers := by
  have opened : Run (opening none) [] (opening none) := .nil
  have run : Run (opening none) _ _ :=
    ((opened.start (.selectObject (some "Account"))).resume [] [] (.fields "Account") rfl
      (contacts.look "Account")).start (.selectObject (some "Contact"))
  refine ⟨_, run, fun config h ↦ ?_, ?_⟩
  · simp only [List.nil_append, List.cons_append, List.mem_cons, List.not_mem_nil,
      or_false] at h
    rcases h with he | he | he
    · cases he
    · cases he
    · cases he
  · simp only [List.nil_append, List.cons_append, List.mem_cons, List.not_mem_nil, or_false,
      forall_eq_or_imp, forall_eq]
    exact ⟨trivial, rfl, trivial⟩

/-- A configuration that is saved while another object is being selected lists the fields of the
object before, under the name of the other. -/
theorem exists_handed_fields_of_other_object :
    ∃ (es : List (Event machine)) (x : Scene machine) (config : Config),
      Run (opening none) es x ∧ (∀ config, .started (Command.applyDraft config) ∉ es) ∧
        (∀ e ∈ es, e.Obeys contacts.Answers) ∧
          (x.state.start (.saveConfig (some "Contacts") none)).2 =
            .pending (.saving config "Contacts" "" none) ∧
          ∃ f ∈ config.fields, ¬ contacts.Reports config.object f.name := by
  obtain ⟨es, run, undrafted, answered⟩ := run_switchedScene
  refine ⟨es, switchedScene, switchedScene.state.toConfig, run, undrafted, answered, rfl,
    ⟨"Industry", some "Industry", true, some true⟩, List.mem_cons_of_mem _ List.mem_cons_self, ?_⟩
  rintro ⟨found, hl, hn⟩
  cases hl
  simp at hn

end SchemaSource

end TableView.Editor
