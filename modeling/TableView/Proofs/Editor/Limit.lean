import TableView.Proofs.Editor.Revision

/-!
# Row limits that are too long

There is a query unless the row limit of the draft has too many digits for a number in text. The row
limit of a draft is the standard one, or one that was set, or that of a draft that was taken over or
loaded (`limit_of_step`). So it can be written after every run in which no such limit was too long
(`exists_query_of_run`).
-/

namespace TableView.Editor

open TableView.Number (digitCount maxIntegerDigits)
open TableView.Task (Event Run Scene Step)

variable {x y : Scene machine} {e : Event machine} {es : List (Event machine)}

/-- The row limit that an event may bring: one that is set, or that of a draft. -/
def limit? : Event machine → Option Nat
  | .started (Command.setRowLimit limit) =>
    match RowLimit.ofValue limit with
    | .ok n => some n
    | _ => none
  | .started (Command.applyDraft config) => some config.limit
  | .resumed (Suspension.entryFields _ _ entry) _ => some entry.config.limit
  | _ => none

/-- Among the row limits that events may have brought is one of more digits than an integer in text
may have. -/
def Overlong (es : List (Event machine)) : Prop :=
  ∃ e ∈ es, ∃ n, limit? e = some n ∧ maxIntegerDigits < digitCount n

theorem not_overlong_iff :
    ¬ Overlong es ↔ ∀ e ∈ es, ∀ n, limit? e = some n → digitCount n ≤ maxIntegerDigits := by
  simp only [Overlong, not_exists, not_and, Nat.not_lt]

theorem Overlong.mono {fs : List (Event machine)} (h : Overlong es) (more : ∀ e ∈ es, e ∈ fs) :
    Overlong fs := by
  obtain ⟨e, mem, n, brought, long⟩ := h
  exact ⟨e, more e mem, n, brought, long⟩

/-- After an event the row limit is the same, the standard one, or the one that the event brings. -/
theorem limit_of_step (step : Step x e y) :
    y.state.draft.limit = x.state.draft.limit ∨ y.state.draft.limit = RowLimit.standard ∨
      limit? e = some y.state.draft.limit := by
  have revision := revision_of_step step
  generalize y.state.draft = d at revision ⊢
  cases revision with
  | edited edit => exact .inl edit.limit
  | limited given =>
    refine .inr (.inr ?_)
    rw [limit?, given]
  | renewed => exact .inr (.inl rfl)
  | deleted => exact .inr (.inl rfl)
  | applied => exact .inr (.inr rfl)
  | @loadedBare id entry =>
    obtain ⟨name, description, taken⟩ := x.state.draft.exists_ofSaved entry .empty id
    rw [taken]
    exact .inr (.inr rfl)
  | @loaded id entry live =>
    obtain ⟨name, description, taken⟩ :=
      x.state.draft.exists_ofSaved entry (.reconcile entry.config.fields live) id
    rw [taken]
    exact .inr (.inr rfl)
  | _ => exact .inl rfl

/-- After every run the row limit has not too many digits, unless one that was brought had. -/
theorem limit_of_run (viewer : Option String) (run : Run (opening viewer) es x) :
    digitCount x.state.draft.limit ≤ maxIntegerDigits ∨ Overlong es := by
  refine run.invariant (A := fun _ ↦ True)
    (I := fun es (y : Scene machine) ↦ digitCount y.state.draft.limit ≤ maxIntegerDigits ∨
      Overlong es) (fun _ _ ↦ trivial) (.inl RowLimit.digitCount_standard)
    fun es y e z h _ step ↦ ?_
  rcases h with short | long
  · rcases limit_of_step step with same | standard | brought
    · rw [same]
      exact .inl short
    · rw [standard]
      exact .inl RowLimit.digitCount_standard
    · rw [or_iff_not_imp_left, Nat.not_le]
      intro long
      exact ⟨e, List.mem_append_right _ (List.mem_singleton_self e), _, brought, long⟩
  · exact .inr (long.mono fun e mem ↦ List.mem_append_left _ mem)

/-- A row limit that is not too long can be written. -/
theorem Session.query_of_limit {s : Session}
    (short : digitCount s.draft.limit ≤ maxIntegerDigits) :
    s.query = .ok (Query.compile s.draft.object s.draft.fields s.draft.filter
      (RowLimit.ofInt s.draft.limit)) :=
  Query.compileWith_of_written short

theorem Session.setRowLimit_natCast (s : Session) {n : Nat} (positive : 0 < n) :
    s.setRowLimit (.int n) = (.ok (), { s with draft := { s.draft with limit := n } }) := by
  have limit : RowLimit.ofInt n = n := if_pos (Int.natCast_pos.mpr positive)
  rw [setRowLimit, RowLimit.ofValue, limit]

/-- A draft with something to ask for has no query under a row limit that is too long. -/
theorem Session.query_of_overlong {s : Session}
    (possible : Query.isPossible s.draft.object s.draft.fields = true)
    (long : maxIntegerDigits < digitCount s.draft.limit) :
    s.query = .error (.badValue Number.tooManyDigits) := by
  have positive : 0 < s.draft.limit := by
    refine Nat.pos_of_ne_zero fun zero ↦ ?_
    rw [zero] at long
    exact absurd long (by decide)
  have limit : RowLimit.ofInt s.draft.limit = s.draft.limit := if_pos (Int.natCast_pos.mpr positive)
  rw [query, Query.compileWith, if_pos possible, RowLimit.ofValue, limit]
  exact if_pos long

/-- After every run there is a query, unless a row limit was brought that is too long. -/
theorem exists_query_of_run (viewer : Option String) (run : Run (opening viewer) es x) :
    (∃ query, x.state.query = .ok query) ∨ Overlong es :=
  (limit_of_run viewer run).imp_left fun short ↦ ⟨_, Session.query_of_limit short⟩

end TableView.Editor
