import TableView.Proofs.Editor.Effect

/-!
# Edits without a scan

The merge tokens of a query are those of its visible fields, of its object and of its filter. So it
makes no difference to them in which order the fields are, how they are labelled, which can be
sorted, and what the row limit is (`Merge.mem_tokens_compileWith_congr`). It is for this that a
session does not look for merge tokens again after edits of these things: whichever of them are
made, one after another and with whatever else suspended, the tokens it knows remain those of its
query (`kept_of_run`).
-/

namespace TableView.Editor

open TableView.Task (Event Run Scene Step)

namespace Session

variable {s s' s'' : Session}

theorem Kept.refl (s : Session) : s.Kept s := ⟨rfl, rfl, fun _ ↦ .rfl⟩

theorem Kept.trans (first : s.Kept s') (second : s'.Kept s'') : s.Kept s'' where
  resolution := second.resolution.trans first.resolution
  query := ⟨second.query.1.trans first.query.1,
    fun name ↦ (second.query.2 name).trans (first.query.2 name)⟩

/-- The tokens that are known remain those of the query. -/
theorem Kept.scanned (kept : s.Kept s') (scanned : s.Scanned) : s'.Scanned := by
  intro name
  rw [kept.resolution, scanned name, kept.query.2 name]

end Session

/-- Start of an edit after which no merge tokens are looked for. -/
def IsQuiet (e : Event machine) : Prop := ∃ c : Command, e = .started c ∧ c.isQuiet = true

variable {x y : Scene machine}

theorem kept_of_step {e : Event machine} (quiet : IsQuiet e) (step : Step x e y) :
    x.state.Kept y.state ∧ y.waiting = x.waiting := by
  obtain ⟨c, rfl, quiet⟩ := quiet
  cases step with
  | start s before after =>
    obtain ⟨kept, nothing⟩ := Session.start_quiet s quiet
    refine ⟨kept, ?_⟩
    have unchanged : (machine.start s c).2.waiting = [] := nothing
    rw [unchanged, List.append_nil]

theorem kept_of_run {es : List (Event machine)} (run : Run x es y) (quiet : ∀ e ∈ es, IsQuiet e) :
    x.state.Kept y.state ∧ y.waiting = x.waiting := by
  refine run.invariant (I := fun _ y ↦ x.state.Kept y.state ∧ y.waiting = x.waiting) quiet
    ⟨.refl _, rfl⟩ fun es y e z ⟨kept, same⟩ quiet step ↦ ?_
  obtain ⟨next, still⟩ := kept_of_step quiet step
  exact ⟨kept.trans next, still.trans same⟩

open Merge (tokens)

/-- A query is written for every row limit that can be written, and then its merge tokens are those
of its visible fields, its object and its filter. They are the same for every such limit, and for
every list of fields that differs from the given one in order, labels and sortable flags only. So
no run of edits after which a session does not look for merge tokens changes those of its query, if
there is a query before and after them, and the tokens that were known remain those of the draft. -/
theorem tokens_of_restyled (object filter : String) (fields : FieldList) (limit : Value) :
    ((∃ query, Query.compileWith object fields filter limit = .ok query) ↔
      (object ≠ "" ∧ fields.anyVisible = true → RowLimit.Writable limit)) ∧
    (∀ query, Query.compileWith object fields filter limit = .ok query →
      (object ≠ "" → fields.anyVisible = true → ∀ name, name ∈ tokens query ↔
        (∃ f ∈ fields.visible, name ∈ tokens f.name) ∨ name ∈ tokens object ∨
          name ∈ tokens filter) ∧
      ∀ others other query', others.Restyles fields →
        Query.compileWith object others filter other = .ok query' →
        ∀ name, name ∈ tokens query' ↔ name ∈ tokens query) ∧
    ∀ (x y : Scene machine) (es : List (Event machine)), (∀ e ∈ es, IsQuiet e) → Run x es y →
      y.state.resolution = x.state.resolution ∧
      (∀ query query', x.state.query = .ok query → y.state.query = .ok query' →
        ∀ name, name ∈ tokens query' ↔ name ∈ tokens query) ∧
      (x.state.Scanned → y.state.Scanned) := by
  have possible_iff : Query.isPossible object fields = true ↔
      object ≠ "" ∧ fields.anyVisible = true := by
    rw [Query.isPossible, Bool.and_eq_true, decide_eq_true_eq]
  refine ⟨?_, fun query h ↦ ⟨fun named shown ↦ ?_, fun others other query' same h' ↦ ?_⟩,
    fun x y es quiet run ↦ ?_⟩
  · rw [Query.exists_compileWith_iff, possible_iff]
  · exact Merge.mem_tokens_compileWith h (possible_iff.mpr ⟨named, shown⟩)
  · exact Merge.mem_tokens_compileWith_congr h h' same
  · obtain ⟨kept, -⟩ := kept_of_run run quiet
    refine ⟨kept.resolution, fun query query' h h' name ↦ ?_, kept.scanned⟩
    rw [Session.mem_tokens_query h, Session.mem_tokens_query h', kept.query.2 name]

/-- Fields of which the first one ends where a merge token would go on. -/
def seamFields : FieldList :=
  ⟨[⟨"$record.", "Open", true, true⟩, ⟨"Owner$record.Region", "Region", true, true⟩,
    ⟨"$record.Hidden", "Hidden", false, true⟩]⟩

/-- The session of a draft with these fields. -/
def seamSession : Session :=
  (Session.rescan { Session.initial none with draft := { Draft.empty with
    object := "Case$record", fields := seamFields, filter := ".Id = $record.Id" } }).2

/-- One edit of each kind. -/
def seamEdits : List Command :=
  [.setFieldLabel "$record." "$record.Label", .setFieldSortable "$record." false,
    .moveFieldUp "$record.Hidden", .moveFieldDown "$record.", .startDrag "Owner$record.Region",
    .dropOn "$record.Hidden" false, .startDrag "$record.", .endDrag, .setRowLimit (.int 7)]

theorem tokens_of_seamEdits :
    let query := "SELECT $record., Owner$record.Region FROM Case$record .Id = $record.Id LIMIT 100"
    let query' := "SELECT Owner$record.Region, $record. FROM Case$record .Id = $record.Id LIMIT 7"
    let now := (seamEdits.foldl Scene.start (⟨seamSession, []⟩ : Scene machine)).state
    now.draft.fields.Restyles seamFields ∧
    Query.compileWith "Case$record" seamFields ".Id = $record.Id" .null = .ok query ∧
    Query.compileWith "Case$record" now.draft.fields ".Id = $record.Id" (.int 7) = .ok query' ∧
    now.query = .ok query' ∧
    (∀ name, name ∈ tokens query ↔
      (∃ f ∈ seamFields.visible, name ∈ tokens f.name) ∨ name ∈ tokens "Case$record" ∨
        name ∈ tokens ".Id = $record.Id") ∧
    (∀ name, name ∈ tokens query' ↔ name ∈ tokens query) ∧
    tokens query' = ["Region", "Id"] ∧ now.Scanned := by
  intro query query' now
  have restyles : now.draft.fields.Restyles seamFields := by
    unfold FieldList.Restyles
    decide
  have writes : Query.compileWith "Case$record" seamFields ".Id = $record.Id" .null =
      .ok query := by
    rfl
  have writes' : Query.compileWith "Case$record" now.draft.fields ".Id = $record.Id" (.int 7) =
      .ok query' := by
    rfl
  have quiet : ∀ e ∈ seamEdits.map (Event.started (M := machine)), IsQuiet e := by
    intro e he
    obtain ⟨c, hc, rfl⟩ := List.mem_map.mp he
    have all : ∀ c ∈ seamEdits, c.isQuiet = true := by simp [seamEdits, Command.isQuiet]
    exact ⟨c, rfl, all c hc⟩
  obtain ⟨-, scan, runs⟩ := tokens_of_restyled "Case$record" ".Id = $record.Id" seamFields .null
  obtain ⟨union, same⟩ := scan query writes
  have start : Run (⟨seamSession, []⟩ : Scene machine) [] ⟨seamSession, []⟩ := .nil
  have run := start.starts seamEdits
  exact ⟨restyles, writes, writes', writes', union (by decide) (by decide),
    same _ _ _ restyles writes', by decide, (runs _ _ _ quiet run).2.2 fun name ↦ .rfl⟩

end TableView.Editor
