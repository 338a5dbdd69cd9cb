import TableView.Proofs.Editor.Effect
import TableView.Proofs.Text.Trim

/-!
# What an event leaves suspended

Everything that can wait after one event and did not wait before it (`suspends_of_step`), with what
the operation remembers. Most operations wait for nothing but the values of a record. A save waits
only if the draft may be saved under the name (`Session.Savable`), and it remembers the draft as it
was when the save was started; if it may not, the save is refused and changes nothing
(`Session.saveConfig_cases`).
-/

namespace TableView.Editor

open TableView.Task (Event Scene Step)

namespace Session

variable (s : Session)

/-- Whether the draft may be saved under a name: there is a name, an object and a visible field. -/
def Savable (name : String) : Prop :=
  name ≠ "" ∧ s.draft.object ≠ "" ∧ s.draft.fields.anyVisible = true

theorem saveDisabled_iff : s.saveDisabled = true ↔ ¬ s.Savable s.draft.name := by
  simp only [saveDisabled, Savable, Bool.or_eq_true, decide_eq_true_eq, Bool.not_eq_true',
    not_and_or, not_not, Bool.not_eq_true, or_assoc]

/-- A draft that may not be saved under the trimmed name is refused, and a draft that may be is
handed over as it is. -/
theorem saveConfig_cases (name description : Option String) :
    ¬ s.Savable (Text.trim (name.getD s.draft.name)) ∧
        (∃ e : Error, e.family = .validation ∧ s.saveConfig name description = s.fail (.engine e)) ∨
      s.Savable (Text.trim (name.getD s.draft.name)) ∧
        s.saveConfig name description =
          ({ s with loading := true },
            .pending (.saving s.toConfig (Text.trim (name.getD s.draft.name))
              (description.getD s.draft.description) s.draft.configId)) := by
  simp only [saveConfig]
  split
  · next unnamed => exact .inl ⟨fun h ↦ h.1 unnamed, .configNameRequired, rfl, rfl⟩
  · next named =>
    split
    · next unselected => exact .inl ⟨fun h ↦ h.2.1 unselected, .objectRequired, rfl, rfl⟩
    · next selected =>
      split
      · next hidden =>
        refine .inl ⟨fun h ↦ ?_, .visibleFieldRequired, rfl, rfl⟩
        rw [h.2.2] at hidden
        cases hidden
      · next shown => exact .inr ⟨⟨named, selected, by simpa using shown⟩, rfl⟩

end Session

/-- What an event leaves suspended of its operation, with all that the operation remembers. -/
inductive Suspends (s : Session) : Event machine → Suspension → Prop
  | values (e : Event machine) (ticket : Ticket) : Suspends s e (.values ticket)
  | objects : Suspends s (.started .loadObjects) .objects
  | fields {name : Option String} :
    Suspends s (.started (.selectObject name)) (.fields (name.getD ""))
  | search {term : String} : Suspends s (.started (.searchContextObjects term)) (.search term)
  | entry {id : Option Int} : Suspends s (.started (.loadConfig id)) (.entry id (s.generation + 1))
  | entryFields {id : Option Int} {entry : SavedConfig} :
    Suspends s (.resumed (Suspension.entry id s.generation) (.ok (some entry)))
      (.entryFields id s.generation entry)
  | saving {name description : Option String} :
    s.Savable (Text.trim (name.getD s.draft.name)) →
    Suspends s (.started (.saveConfig name description))
      (.saving s.toConfig (Text.trim (name.getD s.draft.name))
        (description.getD s.draft.description) s.draft.configId)
  | deleting : Suspends s (.started .deleteConfig) (.deleting s.draft.configId)
  | configs : Suspends s (.started .listConfigs) .configs

namespace Session

variable (s : Session) {e : Event machine} {p : Suspension}

private theorem suspends_fetched {s₁ s' : Session} {w : List Suspension} (h : Fetched s₁ s' w)
    (hp : p ∈ w) : Suspends s e p := by
  cases h with
  | unneeded => exact absurd hp List.not_mem_nil
  | begun =>
    rw [List.mem_singleton.mp hp]
    exact .values e _

private theorem suspends_fetchIfNeeded {s₁ : Session} (hp : p ∈ s₁.fetchIfNeeded.2.waiting) :
    Suspends s e p :=
  suspends_fetched s (fetchIfNeeded_fetched s₁) hp

/-- What fails before it can fetch anything waits for nothing. -/
private theorem suspends_andThen {result : Except Failure Unit × Session}
    (hp : p ∈ (andThen fetchIfNeeded result).2.waiting) : Suspends s e p := by
  rcases result with ⟨(f | u), s₁⟩
  · exact absurd hp List.not_mem_nil
  · exact suspends_fetchIfNeeded s hp

private theorem not_mem_conclude (result : Except Failure Unit × Session) :
    p ∉ (conclude result).2.waiting := by
  rw [conclude_waiting]
  exact List.not_mem_nil

private theorem suspends_selectObject (name : Option String)
    (hp : p ∈ (s.selectObject (name.getD "")).2.waiting) :
    Suspends s (.started (.selectObject name)) p := by
  unfold selectObject at hp
  dsimp only at hp
  split at hp
  · exact absurd hp List.not_mem_nil
  · rw [List.mem_singleton.mp hp]
    exact .fields

private theorem suspends_refreshValues (hp : p ∈ (s.start .refreshValues).2.waiting) :
    Suspends s e p := by
  simp only [start] at hp
  split at hp
  · next h =>
    exact suspends_fetched s (fetch_fetched s ((Resolution.getD_ne_empty_iff _).mp h.1)) hp
  · exact absurd hp List.not_mem_nil

private theorem suspends_saveConfig (name description : Option String)
    (hp : p ∈ (s.saveConfig name description).2.waiting) :
    Suspends s (.started (.saveConfig name description)) p := by
  rcases s.saveConfig_cases name description with ⟨-, e, -, refused⟩ | ⟨savable, handed⟩
  · rw [refused] at hp
    exact absurd hp List.not_mem_nil
  · rw [handed] at hp
    rw [List.mem_singleton.mp hp]
    exact .saving savable

private theorem suspends_deleteConfig (hp : p ∈ s.deleteConfig.2.waiting) :
    Suspends s (.started .deleteConfig) p := by
  unfold deleteConfig at hp
  split at hp
  · exact absurd hp List.not_mem_nil
  · rw [List.mem_singleton.mp hp]
    exact .deleting

/-- What the start of an operation leaves suspended. -/
theorem start_suspends (c : Command) (hp : p ∈ (s.start c).2.waiting) :
    Suspends s (.started c) p := by
  cases c with
  | loadObjects =>
    rw [List.mem_singleton.mp hp]
    exact .objects
  | selectObject name => exact suspends_selectObject s name hp
  | searchContextObjects term =>
    rw [List.mem_singleton.mp hp]
    exact .search
  | loadConfig id =>
    rw [List.mem_singleton.mp hp]
    exact .entry
  | listConfigs =>
    rw [List.mem_singleton.mp hp]
    exact .configs
  | saveConfig name description => exact suspends_saveConfig s name description hp
  | deleteConfig => exact suspends_deleteConfig s hp
  | setFieldVisible name visible => exact suspends_andThen s hp
  | setAllVisible visible => exact suspends_andThen s hp
  | setFilter filter => exact suspends_andThen s hp
  | selectContextObject object label => exact suspends_fetchIfNeeded s hp
  | selectContextRecord record => exact suspends_fetchIfNeeded s hp
  | ensureValues => exact suspends_fetchIfNeeded s hp
  | refreshValues => exact suspends_refreshValues s hp
  | setFieldFilter filter => exact absurd hp (not_mem_conclude _)
  | setRowLimit limit => exact absurd hp (not_mem_conclude _)
  | setDefaultSort field direction => exact absurd hp (not_mem_conclude _)
  | clone => exact absurd hp (not_mem_conclude _)
  | applyDraft config => exact absurd hp (not_mem_conclude _)
  | _ => exact absurd hp List.not_mem_nil

/-! ### Replies -/

private theorem not_mem_resumeObjects (reply : Except Failure (List Source.ObjectOption)) :
    p ∉ (s.resumeObjects reply).2.waiting := by
  cases reply with
  | ok found => exact List.not_mem_nil
  | error f =>
    simp only [resumeObjects]
    split
    · exact List.not_mem_nil
    · exact List.not_mem_nil

private theorem suspends_resumeFields (requested : String)
    (reply : Except Failure (List DiscoveredField))
    (hp : p ∈ (s.resumeFields requested reply).2.waiting) : Suspends s e p := by
  simp only [resumeFields] at hp
  split at hp
  · split at hp
    · exact absurd hp List.not_mem_nil
    · exact absurd hp List.not_mem_nil
  · split at hp
    · exact suspends_andThen s hp
    · exact absurd hp List.not_mem_nil

private theorem suspends_resumeEntry (id : Option Int) (generation : Nat)
    (reply : Except Failure (Option SavedConfig))
    (hp : p ∈ (s.resumeEntry id generation reply).2.waiting) :
    Suspends s (.resumed (Suspension.entry id generation) reply) p := by
  rcases reply with f | (_ | entry)
  · exact absurd hp List.not_mem_nil
  · exact absurd hp List.not_mem_nil
  · simp only [resumeEntry] at hp
    split at hp
    · next current =>
      subst current
      rw [List.mem_singleton.mp hp]
      exact .entryFields
    · exact absurd hp List.not_mem_nil

private theorem suspends_resumeEntryFields (id : Option Int) (generation : Nat)
    (entry : SavedConfig) (reply : Except Failure (List DiscoveredField))
    (hp : p ∈ (s.resumeEntryFields id generation entry reply).2.waiting) : Suspends s e p := by
  simp only [resumeEntryFields] at hp
  split at hp
  · split at hp
    · exact absurd hp List.not_mem_nil
    · exact absurd hp List.not_mem_nil
  · split at hp
    · exact suspends_andThen s hp
    · exact absurd hp List.not_mem_nil

/-- What a reply leaves suspended. -/
theorem resume_suspends (q : Suspension) (reply : q.call.Reply)
    (hp : p ∈ (s.resume q reply).2.waiting) : Suspends s (.resumed q reply) p := by
  cases q with
  | objects => exact absurd hp (not_mem_resumeObjects s reply)
  | fields requested => exact suspends_resumeFields s requested reply hp
  | entry id generation => exact suspends_resumeEntry s id generation reply hp
  | entryFields id generation entry =>
    exact suspends_resumeEntryFields s id generation entry reply hp
  | values ticket =>
    change p ∈ (s.resumeValues ticket reply).2.waiting at hp
    rw [s.resumeValues_state ticket reply] at hp
    exact absurd hp List.not_mem_nil
  | _ => cases reply <;> exact absurd hp List.not_mem_nil

end Session

/-- Whatever waits after an event waited before it, or is left suspended by it. -/
theorem suspends_of_step {x y : Scene machine} {e : Event machine} (step : Step x e y)
    {p : Suspension} (hp : p ∈ y.waiting) : p ∈ x.waiting ∨ Suspends x.state e p := by
  cases step with
  | start s before after c =>
    rcases List.mem_append.mp hp with hp | hp
    · rcases List.mem_append.mp hp with hp | hp
      · exact .inl (List.mem_append_left _ hp)
      · exact .inr (s.start_suspends c hp)
    · exact .inl (List.mem_append_right _ hp)
  | resume s before after q reply =>
    rcases List.mem_append.mp hp with hp | hp
    · rcases List.mem_append.mp hp with hp | hp
      · exact .inl (List.mem_append_left _ hp)
      · exact .inr (s.resume_suspends q reply hp)
    · exact .inl (List.mem_append_right _ (List.mem_cons_of_mem _ hp))

end TableView.Editor
