import TableView.Proofs.Panel.Generation

/-!
# Renderings that overlap

Several renderings may be under way on one panel, and each of them is answered in its own time. The
table is that of the latest one alone: a new panel on which it is the only rendering, and on which
it gets the same answers, shows the same table at every moment (`table_of_latest_rendering`).

The two panels differ in their generation, and in their marker of loading, which a rendering that
comes to its end takes away even if a later one is under way. So what one panel does is compared
with what another one does in another generation (`shifted`).
-/

namespace TableView.Panel

open TableView.Task (Act Roster)
open TableView.Task.Roster (Run Step)

/-! ### Renderings in another generation -/

/-- The same suspension of a rendering of another generation. -/
def Suspension.inGeneration (g : Nat) : Suspension → Suspension
  | config _ name page => config g name page
  | values _ c query r ticket page => values g c query r ticket page
  | execution _ query sort => execution g query sort

/-- The same progress of a rendering of another generation. -/
def progressIn (g : Nat) : Progress → Progress
  | .pending p => .pending (p.inGeneration g)
  | .finished r => .finished r

/-- The same panel and the same progress in another generation. -/
def shifted (g : Nat) (r : State × Progress) : State × Progress :=
  ({ r.1 with generation := g }, progressIn g r.2)

namespace State

variable {s t : State}

private theorem eq_of_sameTable (h : s.SameTable t) :
    { t with loading := false } = { s with loading := false, generation := t.generation } := by
  rcases t with ⟨grid, labels, query, error, loading, generation⟩
  obtain ⟨rfl, rfl, rfl, rfl⟩ := h
  rfl

private theorem fetch_shifted (g : Nat) (c : Config) (query : String) (r : Resolution)
    (page : Page) :
    { s with generation := g }.fetch g c query r page =
      shifted g (s.fetch s.generation c query r page) := by
  unfold fetch
  split
  · dsimp only
    split
    · rfl
    · rfl
  · rfl

private theorem renderLoaded_shifted (g : Nat) (c : Config) (page : Page) :
    { s with generation := g }.renderLoaded g c page =
      shifted g (s.renderLoaded s.generation c page) := by
  unfold renderLoaded
  dsimp only
  split
  · rfl
  · split
    · rfl
    · split
      · rfl
      · let labels := Labels.ofFields (.ofSaved c.fields)
        exact fetch_shifted (s := { s with labels := labels }) g c _ _ page

private theorem resumeConfig_shifted (same : s.SameTable t) (page : Page)
    (reply : Except Failure Config) :
    t.resumeConfig t.generation page reply =
      shifted t.generation (s.resumeConfig s.generation page reply) := by
  cases reply with
  | error f =>
    cases f with
    | engine e =>
      simp only [resumeConfig, ifLatest, eq_of_sameTable same, ite_true]
      rfl
    | _ =>
      simp only [resumeConfig, eq_of_sameTable same]
      rfl
  | ok c =>
    simp only [resumeConfig, ite_true, eq_of_sameTable same]
    exact renderLoaded_shifted (s := { s with loading := false }) t.generation c page

private theorem resumeValues_shifted (same : s.SameTable t) (c : Config) (query : String)
    (r : Resolution) (ticket : Ticket) (page : Page) (reply : Except Failure (Entries Value)) :
    t.resumeValues t.generation c query r ticket page reply =
      shifted t.generation (s.resumeValues s.generation c query r ticket page reply) := by
  cases reply with
  | error f =>
    simp only [resumeValues, ifLatest, eq_of_sameTable same, ite_true]
    rfl
  | ok values =>
    simp only [resumeValues, ite_true, eq_of_sameTable same]
    rfl

private theorem showResult_shifted (g : Nat) (query : String) (sort : Option (String × Direction))
    (result : QueryResult) :
    { s with generation := g }.showResult query sort result =
      { s.showResult query sort result with generation := g } := by
  unfold showResult
  cases sort with
  | none => rfl
  | some wanted =>
    dsimp only
    split
    · next h => rw [if_pos (by exact h)]
    · next h => rw [if_neg (by exact h)]

private theorem resumeExecution_shifted (same : s.SameTable t) (query : String)
    (sort : Option (String × Direction)) (reply : Except Failure QueryResult) :
    t.resumeExecution t.generation query sort reply =
      shifted t.generation (s.resumeExecution s.generation query sort reply) := by
  cases reply with
  | error f =>
    cases f with
    | engine e =>
      simp only [resumeExecution, ifLatest, eq_of_sameTable same, ite_true]
      split
      · rfl
      · rfl
    | _ =>
      simp only [resumeExecution, eq_of_sameTable same]
      rfl
  | ok result =>
    simp only [resumeExecution, ifLatest, eq_of_sameTable same, ite_true]
    rw [showResult_shifted (s := { s with loading := false })]
    rfl

/-- Whatever the panel was before, a rendering starts as it does on a new one. -/
theorem start_initial {c : Command} (renders : c.Renders) :
    initial.start c = shifted 1 (s.start c) := by
  cases c with
  | renderConfig name page =>
    simp only [start]
    split
    · rfl
    · rfl
  | renderQuery query labels => rfl
  | sort field direction => exact renders.elim

private theorem sameTable_shifted (g : Nat) (r : State × Progress) :
    r.1.SameTable (shifted g r).1 := ⟨rfl, rfl, rfl, rfl⟩

private theorem sameTable_start {c : Command} (h : ¬ c.Renders) (same : s.SameTable t) :
    (s.start c).1.SameTable (t.start c).1 := by
  cases c with
  | renderConfig name page => exact absurd trivial h
  | renderQuery query labels => exact absurd trivial h
  | sort field direction =>
    simp only [start]
    split
    · exact same
    · exact ⟨congrArg (Grid.sort · field _) same.grid, same.labels, same.query, same.error⟩

/-- A panel with the same table goes on in the same way with the same answer, in its own
generation. -/
private theorem exists_answer_shifted (same : s.SameTable t) (p : Suspension)
    (latest : p.generation = s.generation) (reply : p.call.Reply) :
    ∃ reply' : (p.inGeneration t.generation).call.Reply,
      t.resume (p.inGeneration t.generation) reply' = shifted t.generation (s.resume p reply) ∧
        ∀ k, (.answered k (machine.call (p.inGeneration t.generation)) reply' : Act machine) =
          .answered k (machine.call p) reply := by
  cases p with
  | config g name page =>
    cases latest
    exact ⟨reply, resumeConfig_shifted same page reply, fun _ ↦ rfl⟩
  | values g c query r ticket page =>
    cases latest
    exact ⟨reply, resumeValues_shifted same c query r ticket page reply, fun _ ↦ rfl⟩
  | execution g query sort =>
    cases latest
    exact ⟨reply, resumeExecution_shifted same query sort reply, fun _ ↦ rfl⟩

end State

/-! ### The latest rendering alone -/

variable {x x₀ x₁ y z : Roster machine} {a : Act machine} {as : List (Act machine)} {k : Nat}

/-- What is left of an act if, of all renderings, only that of a number takes place, as the first
operation on its panel. -/
def alone (k : Nat) : Act machine → Option (Act machine)
  | .started c => some (.started c)
  | .answered j call reply => if j = k then some (.answered 0 call reply) else none

/-- A panel whose first operation has come as far as the operation of a number has come here, and
that shows the same table. -/
private structure Follows (k : Nat) (y z : Roster machine) : Prop where
  table : y.state.SameTable z.state
  stage : ∃ stage, y.stages[k]? = some stage ∧
    z.stages[0]? = some (progressIn z.state.generation stage)

private theorem follows_first {c : Command} (renders : c.Renders)
    (first : Step x₀ (.started c) x₁) :
    Follows x₀.stages.length x₁ (newPanel.start c) := by
  cases first with
  | start s stages =>
    have shifted := State.start_initial (s := s) renders
    have continues := State.continues_start (s := State.initial) renders
    refine ⟨?_, _, List.getElem?_concat_length, ?_⟩
    · change (State.start s c).1.SameTable (State.start .initial c).1
      rw [shifted]
      exact State.sameTable_shifted 1 _
    · change some (State.start .initial c).2 =
        some (progressIn (State.start .initial c).1.generation _)
      rw [continues.generation, shifted]
      rfl

private theorem getElem?_concat {stages : List machine.Stage} {stage next : machine.Stage}
    (h : stages[k]? = some stage) : (stages ++ [next])[k]? = some stage := by
  obtain ⟨bound, -⟩ := List.getElem?_eq_some_iff.mp h
  rwa [List.getElem?_append_left bound]

private theorem getElem?_set {stages : List machine.Stage} {stage next : machine.Stage}
    (h : stages[k]? = some stage) : (stages.set k next)[k]? = some next := by
  obtain ⟨bound, -⟩ := List.getElem?_eq_some_iff.mp h
  exact List.getElem?_set_self bound

private theorem follows_answer {s : State} {stages : List machine.Stage} {p : Suspension}
    (reply : p.call.Reply) (follows : Follows k ⟨s, stages⟩ z)
    (here : stages[k]? = some (.pending p)) (latest : p.generation = s.generation) :
    ∃ z', Step z (.answered 0 (machine.call p) reply) z' ∧
      Follows k ⟨(s.resume p reply).1, stages.set k (s.resume p reply).2⟩ z' := by
  obtain ⟨same, stage, here', there⟩ := follows
  cases Option.some.inj (here.symm.trans here')
  obtain ⟨reply', resumed, act⟩ := State.exists_answer_shifted same p latest reply
  refine ⟨z.answer 0 _ reply', act 0 ▸ .answer z.state z.stages 0 _ there reply', ?_, _,
    getElem?_set here, ?_⟩
  · change (s.resume p reply).1.SameTable (State.resume z.state _ reply').1
    rw [resumed]
    exact State.sameTable_shifted _ _
  · refine (getElem?_set there).trans ?_
    change some (State.resume z.state _ reply').2 =
      some (progressIn (State.resume z.state _ reply').1.generation _)
    rw [resumed]
    rfl

private theorem follows_step (latest : IsLatest k x) (follows : Follows k x z)
    (step : Step x a y) (none : ¬ StartsRendering a) :
    ∃ z', Run z (alone k a).toList z' ∧ Follows k y z' := by
  cases step with
  | start s stages c =>
    obtain ⟨same, stage, here, there⟩ := follows
    have ends := State.ends_start (s := z.state) (c := c) none
    refine ⟨z.start c, .single (z.step_start c), State.sameTable_start none same, stage,
      getElem?_concat here, ?_⟩
    change _ = some (progressIn (State.start z.state c).1.generation stage)
    rw [ends.generation]
    exact getElem?_concat there
  | answer s stages j p hp reply =>
    have step : Step ⟨s, stages⟩ (.answered j (machine.call p) reply) _ :=
      .answer s stages j p hp reply
    by_cases own : j = k
    · subst own
      have current : p.generation = s.generation := (latest j p hp).mpr rfl
      obtain ⟨z', next, follows⟩ := follows_answer reply follows hp current
      rw [alone, if_pos rfl]
      exact ⟨z', .single next, follows⟩
    · obtain ⟨same, stage, here, there⟩ := follows
      rw [alone, if_neg own]
      refine ⟨z, .nil, (sameTable_of_answer latest step own).symm.trans same, stage, ?_, there⟩
      change (stages.set j _)[k]? = _
      rwa [List.getElem?_set_ne own]

private theorem progressIn_eq_finished {g : Nat} {stage : Progress} {r : Except Failure Rendered} :
    progressIn g stage = .finished r ↔ stage = .finished r := by
  cases stage with
  | pending p => exact ⟨fun h ↦ (nomatch h), fun h ↦ (nomatch h)⟩
  | finished r' => rfl

private theorem exists_follows {c : Command} (renders : c.Renders)
    (first : Step x₀ (.started c) x₁) (latest : IsLatest x₀.stages.length x₁) (run : Run x₁ as y)
    (last : ∀ a ∈ as, ¬ StartsRendering a) :
    ∃ z, Run newPanel (.started c :: as.filterMap (alone x₀.stages.length)) z ∧
      Follows x₀.stages.length y z := by
  let k := x₀.stages.length
  let I : List (Act machine) → Roster machine → Prop := fun as y ↦ IsLatest k y ∧
    ∃ z, Run newPanel (.started c :: as.filterMap (alone k)) z ∧ Follows k y z
  have both : I as y := by
    refine run.invariant (I := I) last ⟨latest, _, ?_, follows_first renders first⟩ ?_
    · exact .start (M := machine) .nil c
    · rintro as y a y' ⟨latest, z, run, follows⟩ none step
      obtain ⟨z', next, follows'⟩ := follows_step latest follows step none
      have longer : (as ++ [a]).filterMap (alone k) =
          as.filterMap (alone k) ++ (alone k a).toList := by
        rw [List.filterMap_append]
        cases h : alone k a with
        | none => simp [h]
        | some b => simp [h]
      refine ⟨isLatest_step latest step none, z', ?_, follows'⟩
      rw [longer]
      exact run.append next
  exact both.2

/-- Answers to other operations than the latest rendering leave the table. So, whatever other
renderings there are, the table is the one that a new panel shows after the latest rendering alone,
with the same answers to its calls, and the same sorting since; and the rendering ends there with
the same result as it does here. -/
theorem table_of_latest_rendering {s : State} {c : Command} {history : List (Act machine)}
    (before : Run (.new s) history x₀) (renders : c.Renders) (first : Step x₀ (.started c) x₁)
    (run : Run x₁ as y) (last : ∀ a ∈ as, ¬ StartsRendering a) :
    (∀ (j : Nat) (call : Call) (reply : call.Reply) (z : Roster machine),
      Step y (.answered j call reply) z → j ≠ x₀.stages.length → y.state.SameTable z.state) ∧
    ∃ z, Run newPanel (.started c :: as.filterMap (alone x₀.stages.length)) z ∧
      y.state.SameTable z.state ∧
        ∀ r, y.stages[x₀.stages.length]? = some (.finished r) ↔
          z.stages[0]? = some (.finished r) := by
  refine ⟨fun j call reply z step other ↦ ?_, ?_⟩
  · exact sameTable_of_answer (isLatest_of_run before renders first run last) step other
  · have latest := isLatest_of_run before renders first .nil fun _ h ↦ nomatch h
    obtain ⟨z, run, table, stage, here, there⟩ := exists_follows renders first latest run last
    refine ⟨z, run, table, fun r ↦ ⟨fun ended ↦ ?_, fun ended ↦ ?_⟩⟩
    · cases Option.some.inj (here.symm.trans ended)
      exact there
    · rw [progressIn_eq_finished.mp (Option.some.inj (there.symm.trans ended))] at here
      exact here

/-- A result with one row, whose only cell is a text. -/
def single (text : String) : QueryResult := ⟨[⟨"Name", "Name", true⟩], [[("Name", .text text)]]⟩

/-- The panel while one query is being run. -/
def busyPanel : Roster machine := newPanel.start (Command.renderQuery "SELECT Id" none)

/-- The panel after another query has been run in the meantime. -/
def overtakenPanel : Roster machine :=
  (busyPanel.start (Command.renderQuery "SELECT Name" none)).answer 1
    (.execution 2 "SELECT Name" none) (.ok (single "Acme"))

theorem overtakenPanel_table :
    overtakenPanel.state.grid.rows.length = 1 ∧
      overtakenPanel.state.SameTable (overtakenPanel.answer 0 (.execution 1 "SELECT Id" none)
        (.ok (single "Globex"))).state ∧
      ∃ z, Run newPanel [.started (Command.renderQuery "SELECT Name" none),
          .answered 0 (Call.execute "SELECT Name") (.ok (single "Acme"))] z ∧
        overtakenPanel.state.SameTable z.state := by
  have opened : Run newPanel [] newPanel := .nil
  have renders : (Command.renderQuery "SELECT Name" none).Renders := trivial
  have started : Run (busyPanel.start (Command.renderQuery "SELECT Name" none)) [] _ := .nil
  have late := overtakenPanel.step_answer 0 (.execution 1 "SELECT Id" none) rfl
    (.ok (single "Globex"))
  obtain ⟨others, z, alone, table, -⟩ := table_of_latest_rendering
    (opened.start (Command.renderQuery "SELECT Id" none)) renders (busyPanel.step_start _)
    (started.answer 1 (.execution 2 "SELECT Name" none) rfl (.ok (single "Acme"))) fun a ha ↦ by
      rw [List.mem_singleton.mp ha]
      exact id
  exact ⟨rfl, others 0 _ _ _ late Nat.zero_ne_one, z, alone, table⟩

end TableView.Panel
