import TableView.Panel.Memory
import TableView.Proofs.Field.Names
import TableView.Proofs.Store.Sound
import TableView.Proofs.Task.Desk

/-!
# Columns of stored configurations

A configuration is stored if one of its fields is visible, but of several fields of one name only
the first becomes a column. So a stored configuration has a visible column, and a query, exactly if
a field that is visible is the first of its name; a panel that renders any other one shows an error
in place of rows (`columns_of_stored`).
-/

namespace TableView

/-- Some field is visible and the first of its name. -/
def Config.HasColumn (c : Config) : Prop :=
  ∃ before f after, c.fields = before ++ f :: after ∧ f.visible = true ∧
    ∀ g ∈ before, g.name ≠ f.name

/-- Where no name is repeated, a visible field is a visible column. -/
theorem Config.hasColumn_of_nodup {c : Config}
    (distinct : (c.fields.map SavedField.name).Nodup) (visible : c.anyVisible = true) :
    c.HasColumn := by
  obtain ⟨f, mem, shown⟩ := List.any_eq_true.mp visible
  obtain ⟨before, after, same⟩ := List.append_of_mem mem
  rw [same, List.map_append, List.map_cons, List.nodup_append] at distinct
  exact ⟨before, f, after, same, shown, fun g hg ↦
    distinct.2.2 _ (List.mem_map_of_mem hg) _ List.mem_cons_self⟩

theorem FieldList.anyVisible_ofSaved_iff (c : Config) :
    (ofSaved c.fields).anyVisible = true ↔ c.HasColumn := by
  rw [anyVisible, List.any_eq_true]
  constructor
  · rintro ⟨_, mem, visible⟩
    obtain ⟨f, first, rfl⟩ := List.mem_map.mp mem
    obtain ⟨before, after, same, apart⟩ := (mem_firstOfEach_iff SavedField.name c.fields f).mp first
    exact ⟨before, f, after, same, visible, apart⟩
  · rintro ⟨before, f, after, same, visible, apart⟩
    have first := (mem_firstOfEach_iff SavedField.name c.fields f).mpr ⟨before, after, same, apart⟩
    exact ⟨f.toField, List.mem_map_of_mem first, visible⟩

/-- There is a query of an object exactly if a field is visible. -/
theorem Query.compile_ne_empty_iff {object : String} (named : object ≠ "") (fields : FieldList)
    (filter : String) (limit : Nat) :
    compile object fields filter limit ≠ "" ↔ fields.anyVisible = true := by
  have possible : isPossible object fields = fields.anyVisible := by
    rw [isPossible, decide_eq_true named, Bool.true_and]
  rw [compile, possible]
  split
  · next visible =>
    refine iff_of_true (fun none ↦ ?_) visible
    have started : "SELECT " ≠ "" := by decide
    simp only [text, String.append_eq_empty_iff, started, false_and] at none
  · next hidden => exact iff_of_false (absurd rfl) hidden

namespace Panel

open TableView.Task

/-- The error in place of the rows of a configuration without a visible column. -/
def noColumns : String := "No visible fields configured"

/-- A rendering asks for a configuration and ends with the error that it has no visible column. -/
def EndsWithoutColumns (name : String) (report : Report machine) : Prop :=
  report.calls = [Call.config name] ∧
    ∃ shown : Rendered, report.stage = .finished (.ok shown) ∧ shown.error = some noColumns

/-! ### A configuration that has come -/

variable {s : State} {c : Config} {page : Page}

theorem renderLoaded_of_hidden (hidden : (FieldList.ofSaved c.fields).anyVisible = false)
    (generation : Nat) :
    s.renderLoaded generation c page = (s.showError noColumns).finish := by
  unfold State.renderLoaded
  dsimp only
  rw [hidden]
  rfl

private theorem not_noColumns_of_fetch (generation : Nat) (query : String) (r : Resolution)
    {shown : Rendered} (h : (s.fetch generation c query r page).2 = .finished (.ok shown)) :
    shown.error ≠ some noColumns := by
  unfold State.fetch at h
  split at h
  · dsimp only at h
    split at h
    · nomatch h
    · nomatch h
  · cases h
    exact (by decide : some Error.recordPageRequired.message ≠ some noColumns)

private theorem not_noColumns_of_visible (visible : (FieldList.ofSaved c.fields).anyVisible = true)
    (generation : Nat) {shown : Rendered}
    (h : (s.renderLoaded generation c page).2 = .finished (.ok shown)) :
    shown.error ≠ some noColumns := by
  unfold State.renderLoaded at h
  dsimp only at h
  rw [visible, Bool.not_true, if_neg Bool.false_ne_true] at h
  split at h
  · cases h
  · split at h
    · cases h
    · exact not_noColumns_of_fetch generation _ _ h

/-! ### Renderings -/

variable {World : Type} (outside : machine.Outside World) {d : Desk machine World} {w : World}
  {name : String}

theorem start_renderConfig (named : name ≠ "") (s : State) (page : Page) :
    ∃ next : State, machine.start s (Command.renderConfig (some name) page) =
      (next, .pending (Suspension.config next.generation name page)) := by
  have given : Resolution.given (some name) = some name := by
    rw [Resolution.given, Option.filter_some, if_pos (decide_eq_true named)]
  refine ⟨{ s.restart with loading := true }, ?_⟩
  change s.start (.renderConfig (some name) page) = _
  rw [State.start]
  dsimp only
  rw [given]
  rfl

theorem resume_config (s : State) (name : String) (page : Page) (c : Config) :
    machine.resume s (Suspension.config s.generation name page) (.ok c) =
      { s with loading := false }.renderLoaded s.generation c page :=
  if_pos rfl

/-- A rendering ends without columns exactly if the configuration that it gets has none. -/
theorem endsWithoutColumns_iff (named : name ≠ "") (page : Page)
    (loaded : outside d.world (Call.config name) = (.ok c, w)) :
    EndsWithoutColumns name (d.run outside (Command.renderConfig (some name) page)).2 ↔
      (FieldList.ofSaved c.fields).anyVisible = false := by
  obtain ⟨s, start⟩ := start_renderConfig named d.state page
  rcases rendered : { s with loading := false }.renderLoaded s.generation c page with ⟨t, stage⟩
  have resumed := (resume_config s name page c).trans rendered
  cases visible : (FieldList.ofSaved c.fields).anyVisible with
  | false =>
    rw [renderLoaded_of_hidden visible] at rendered
    cases rendered
    rw [Desk.run_of_one_reply outside 2 start rfl loaded resumed]
    exact iff_of_true ⟨rfl, _, rfl, rfl⟩ rfl
  | true =>
    rw [Desk.run_of_start outside start]
    change EndsWithoutColumns name (Desk.settle outside (2 + 1) _ _).2 ↔ _
    rw [Desk.settle_of_reply outside 2 (d := { d with state := s })
      (p := Suspension.config s.generation name page) loaded resumed]
    refine iff_of_false (fun ⟨calls, shown, ends, error⟩ ↦ ?_) nofun
    -- The query would be another call, so without one the rendering has ended by now.
    obtain ⟨r, rfl⟩ := Desk.finished_of_no_calls outside (List.cons.inj calls).2
    rw [Desk.settle_finished] at ends
    exact not_noColumns_of_visible visible s.generation
      ((congrArg Prod.snd rendered).trans ends) error

end Panel

/-! ### Stored configurations -/

namespace Store

open TableView.Task

/-- Every stored configuration has a visible field. It has a visible column, and a query, exactly
if a visible field is the first of its name, as it is where no name is repeated; and a panel that
renders it ends without columns exactly if it has none. -/
theorem columns_of_stored {calls : List Call} (valid : ∀ call ∈ calls, call.Valid)
    {r : StoredConfig} (mem : r ∈ (empty.after calls).rows) :
    ∃ c, r.config = .ok c ∧ c.anyVisible = true ∧
      ((c.fields.map SavedField.name).Nodup → c.HasColumn) ∧
      ((FieldList.ofSaved c.fields).anyVisible = true ↔ c.HasColumn) ∧
      (Query.compile c.object (.ofSaved c.fields) c.filter c.limit ≠ "" ↔ c.HasColumn) ∧
      ∀ {World : Type} (outside : Panel.machine.Outside World) (d : Desk Panel.machine World)
        (page : Panel.Page) (w : World), r.active = true →
        outside d.world (Panel.Call.config r.name) = ((empty.after calls).loadByName r.name, w) →
        (Panel.EndsWithoutColumns r.name
          (d.run outside (Panel.Command.renderConfig (some r.name) page)).2 ↔ ¬ c.HasColumn) := by
  have sound := sound_empty.after valid
  have kept := sound.rows r mem
  obtain ⟨c, read, -, -, object, visible, -⟩ := kept.config
  have columns := FieldList.anyVisible_ofSaved_iff c
  refine ⟨c, read, visible, fun distinct ↦ Config.hasColumn_of_nodup distinct visible, columns,
    (Query.compile_ne_empty_iff object _ _ _).trans columns, ?_⟩
  intro World outside d page w active answer
  rw [(sound.loadByName_of_row mem active).trans read] at answer
  rw [Panel.endsWithoutColumns_iff outside kept.name_ne_empty page answer, ← columns,
    Bool.not_eq_true]

/-- A configuration whose only visible field comes after a hidden one of the same name. -/
def shadowed : NewConfig :=
  ⟨"Accounts", none, { single "Account" 50 with
    fields := [⟨"Id", none, false, none⟩, ⟨"Id", none, true, none⟩] }, none⟩

private theorem valid_shadowed : ∀ call ∈ [Call.create shadowed], call.Valid := by
  decide +kernel

private theorem after_shadowed :
    empty.after [.create shadowed] = ⟨[empty.newRow shadowed]⟩ :=
  after_create (by decide +kernel)

private theorem config_shadowed :
    (empty.newRow shadowed).config = .ok shadowed.config.current :=
  Config.read_print_current shadowed.config (by decide) (by decide +kernel)

/-- A desk with a blank panel and a memory of the stored configuration. -/
def shadowedDesk : Desk Panel.machine Panel.Memory :=
  ⟨Panel.State.initial, ⟨⟨[], none, [], empty.after [.create shadowed]⟩, [], none⟩, []⟩

/-- The configuration is stored, and a panel that renders it ends without columns. -/
theorem columns_of_shadowed : (∀ call ∈ [Call.create shadowed], call.Valid) ∧
    empty.newRow shadowed ∈ (empty.after [.create shadowed]).rows ∧
    Panel.EndsWithoutColumns "Accounts" (shadowedDesk.run Panel.Memory.reply
      (Panel.Command.renderConfig (some "Accounts") ⟨none, none, none⟩)).2 := by
  have mem : empty.newRow shadowed ∈ (empty.after [.create shadowed]).rows := by
    rw [after_shadowed]
    exact List.mem_singleton_self _
  obtain ⟨c, read, -, -, columns, -, renders⟩ := columns_of_stored valid_shadowed mem
  cases Except.ok.inj (read.symm.trans config_shadowed)
  have hidden : ¬ shadowed.config.current.HasColumn := columns.not.mp (by decide)
  exact ⟨valid_shadowed, mem,
    (renders Panel.Memory.reply shadowedDesk ⟨none, none, none⟩ _ rfl rfl).mpr hidden⟩

/-- A stored configuration can be without a visible column, and without a query. -/
theorem exists_stored_without_column : ∃ calls, (∀ call ∈ calls, call.Valid) ∧
    ∃ r ∈ (empty.after calls).rows, r.active = true ∧ ∃ c, r.config = .ok c ∧
      (FieldList.ofSaved c.fields).anyVisible = false ∧
      Query.compile c.object (.ofSaved c.fields) c.filter c.limit = "" := by
  refine ⟨[.create shadowed], valid_shadowed, empty.newRow shadowed, ?_, rfl,
    shadowed.config.current, config_shadowed, by decide, by decide⟩
  rw [after_shadowed]
  exact List.mem_singleton_self _

end Store

end TableView
