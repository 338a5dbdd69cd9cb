import TableView.Proofs.Panel.Generation

/-!
# Renderings that fail

A rendering catches some failures of its calls: every error of the store, every failure to fetch
values, and the execution errors of a query. It ends there, and the panel shows no rows and the
message of the failure in their place (`message_of_caught_failure`). An empty text stands for no
error, so a failure without words leaves a panel that shows neither rows nor an error
(`exists_caught_failure_unseen`).
-/

namespace TableView.Panel

open TableView.Task (Act Roster)
open TableView.Task.Roster (Run Step)

/-- The failures of a call that a rendering answers for. All others end it without a result. -/
def Catches : Call → Failure → Prop
  | .config _, f => ∃ e, f = .engine e
  | .values _ _ _, _ => True
  | .execute _, f => ∃ e, f = .engine e ∧ e.family = .execution

namespace State

variable {s : State}

/-- What a rendering that is still wanted does with a failure that it catches. -/
theorem resume_of_caught (p : Suspension) {f : Failure} (current : s.generation = p.generation)
    (caught : Catches p.call f) :
    ∃ t : State, s.resume p (.error f) = t.finish ∧ t.loading = false ∧ t.error = f.message ∧
      (s.grid.rows = [] → t.grid.rows = []) := by
  cases p with
  | config g name page =>
    obtain ⟨e, rfl⟩ := caught
    cases current
    simp only [resume, resumeConfig, ifLatest, ite_true]
    exact ⟨_, rfl, rfl, rfl, id⟩
  | values g c query r ticket page =>
    cases current
    simp only [resume, resumeValues, ifLatest, ite_true]
    exact ⟨_, rfl, rfl, rfl, id⟩
  | execution g query sort =>
    obtain ⟨e, rfl, family⟩ := caught
    cases current
    simp only [resume, resumeExecution, ifLatest, ite_true, if_pos family]
    exact ⟨_, rfl, rfl, rfl, fun _ ↦ rfl⟩

end State

/-! ### No rows before the end -/

variable {x x₀ x₁ y z : Roster machine} {a : Act machine} {as : List (Act machine)} {k : Nat}

/-- While the operation of a number waits, there are no rows. -/
private def Bare (k : Nat) (x : Roster machine) : Prop :=
  ∀ p, x.stages[k]? = some (.pending p) → x.state.grid.rows = []

private theorem bare_of_start {c : Command} (renders : c.Renders) (step : Step x (.started c) y) :
    Bare x.stages.length y := by
  cases step with
  | start s stages =>
    intro p h
    rcases Roster.stage_start h with ⟨-, other⟩ | ⟨-, stage⟩
    · exact absurd rfl other
    · have empty := (State.continues_start (s := s) renders).pending p stage
      exact congrArg Grid.rows empty.2

private theorem bare_step (latest : IsLatest k x) (bare : Bare k x) (step : Step x a y)
    (none : ¬ StartsRendering a) : Bare k y := by
  cases step with
  | start s stages c =>
    intro p h
    have ends := State.ends_start (s := s) (c := c) none
    rcases Roster.stage_start h with ⟨old, -⟩ | ⟨-, stage⟩
    · exact ends.rows (bare p old)
    · exact absurd stage (ends.ended p)
  | answer s stages j p hp reply =>
    intro q h
    rcases Roster.stage_answer h with ⟨rfl, stage⟩ | ⟨other, old⟩
    · have same := ((State.continues_resume (s := s) p reply).pending q stage).2
      exact (congrArg Grid.rows same).trans (bare p hp)
    · have same := sameTable_of_answer latest (.answer s stages j p hp reply) (Ne.symm other)
      exact (congrArg Grid.rows same.grid).trans (bare q old)

private theorem bare_of_run {s : State} {c : Command} {history : List (Act machine)}
    (before : Run (.new s) history x₀) (renders : c.Renders) (first : Step x₀ (.started c) x₁)
    (run : Run x₁ as y) (last : ∀ a ∈ as, ¬ StartsRendering a) : Bare x₀.stages.length y := by
  let k := x₀.stages.length
  have latest : IsLatest k x₁ := isLatest_of_run before renders first .nil fun _ h ↦ nomatch h
  have both : IsLatest k y ∧ Bare k y :=
    run.invariant (I := fun _ y ↦ IsLatest k y ∧ Bare k y) last
      ⟨latest, bare_of_start renders first⟩
      fun _ _ _ _ ⟨latest, bare⟩ none step ↦
        ⟨isLatest_step latest step none, bare_step latest bare step none⟩
  exact both.2

/-! ### What is shown -/

/-- When a call of the latest rendering fails and it catches the failure, the rendering ends with
what the panel shows, so that no query is run any more. There are no rows, and there is an error
exactly if the failure has a message, which is then the one shown. -/
theorem message_of_caught_failure {s : State} {c : Command} {history : List (Act machine)}
    (before : Run (.new s) history x₀) (renders : c.Renders) (first : Step x₀ (.started c) x₁)
    (run : Run x₁ as y) (last : ∀ a ∈ as, ¬ StartsRendering a) {call : Call} {f : Failure}
    (caught : Catches call f) (step : Step y (.answered x₀.stages.length call (.error f)) z) :
    z.stages[x₀.stages.length]? = some (.finished (.ok z.state.rendered)) ∧
      z.state.rendered.grid.rows = [] ∧
      (z.state.hasError = true ↔ f.message ≠ "") ∧
      z.state.rendered.error = if f.message = "" then none else some f.message := by
  have latest := isLatest_of_run before renders first run last
  have bare := bare_of_run before renders first run last
  generalize x₀.stages.length = k at step latest bare ⊢
  generalize hr : (Except.error f : call.Reply) = reply at step
  cases step with
  | answer s stages _ p hp _ =>
    subst hr
    have current : s.generation = p.generation := ((latest k p hp).mpr rfl).symm
    obtain ⟨t, resumed, loading, error, rows⟩ := State.resume_of_caught p current caught
    have shown : machine.resume s p (.error f) = t.finish := resumed
    simp only [shown]
    refine ⟨?_, rows (bare p hp), ?_, ?_⟩
    · rw [List.getElem?_set_self (List.getElem?_eq_some_iff.mp hp).1]
      rfl
    · simp [State.finish, State.hasError, loading, error]
    · simp [State.finish, State.rendered, error]

/-- A configuration whose filter asks for a field of the record. -/
def recordConfig : Config :=
  ⟨Config.currentVersion, "Contact", [⟨"Id", none, true, none⟩], "WHERE Company = $record.Name",
    100, none, .ascending, .plain, .initial⟩

/-- The query of that configuration. -/
def recordQuery : String := "SELECT Id FROM Contact WHERE Company = $record.Name LIMIT 100"

/-- The page of a record. -/
def recordPage : Page := ⟨some "001A", some "Account", none⟩

/-- A panel that renders the configuration on that page. -/
def loadingPanel : Roster machine :=
  newPanel.start (Command.renderConfig (some "Contacts") recordPage)

/-- The panel when the configuration has come. -/
def askingPanel : Roster machine :=
  loadingPanel.answer 0 (.config 1 "Contacts" recordPage) (.ok recordConfig)

/-- The rendering that waits for the values of the record. -/
def asking : Suspension :=
  .values 1 recordConfig recordQuery ⟨["Name"], some "Account", some "001A", [], none⟩
    ⟨some "Account", "001A", ["Name"]⟩ recordPage

/-- The panel when the values could not be fetched. -/
def refusedPanel (message : String) : Roster machine :=
  askingPanel.answer 0 asking (.error (.engine (.reported .resolution message)))

private theorem askingPanel_waits : askingPanel.stages[0]? = some (.pending asking) := rfl

theorem refusedPanel_message :
    (refusedPanel "No such record").state.rendered.grid.rows = [] ∧
      (refusedPanel "No such record").state.hasError = true ∧
      (refusedPanel "No such record").state.rendered.error = some "No such record" := by
  have opened : Run newPanel [] newPanel := .nil
  have renders : (Command.renderConfig (some "Contacts") recordPage).Renders := trivial
  have loading : Run loadingPanel [] loadingPanel := .nil
  have caught : Catches asking.call (.engine (.reported .resolution "No such record")) := trivial
  obtain ⟨-, rows, error, message⟩ := message_of_caught_failure opened renders
    (newPanel.step_start _)
    (loading.answer 0 (.config 1 "Contacts" recordPage) rfl (.ok recordConfig))
    (fun a ha ↦ by rw [List.mem_singleton.mp ha]; exact id) caught
    (askingPanel.step_answer 0 asking askingPanel_waits _)
  exact ⟨rows, error.mpr (by decide), message⟩

/-- A failure to fetch values may have no message. The rendering ends, and the panel shows neither
rows nor an error. -/
theorem exists_caught_failure_unseen :
    ∃ (c : Command) (x y z : Roster machine) (r : Config) (call : Call) (f : Failure),
      c.Renders ∧ Step newPanel (.started c) x ∧
        Step x (.answered 0 (Call.config "Contacts") (.ok r)) y ∧
        Catches call f ∧ Step y (.answered 0 call (.error f)) z ∧
        z.stages[0]? = some (.finished (.ok z.state.rendered)) ∧
        z.state.hasError = false ∧ z.state.rendered.error = none := by
  refine ⟨Command.renderConfig (some "Contacts") recordPage, loadingPanel, askingPanel,
    refusedPanel "", recordConfig, asking.call, _, trivial, newPanel.step_start _, ?_, ?_,
    askingPanel.step_answer 0 asking askingPanel_waits _, ?_, ?_, ?_⟩
  · exact loadingPanel.step_answer 0 (.config 1 "Contacts" recordPage) rfl (.ok recordConfig)
  · trivial
  · rfl
  · rfl
  · rfl

end TableView.Panel
