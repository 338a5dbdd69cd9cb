import TableView.Panel.Operation
import TableView.Proofs.Task.Roster

/-!
# Generations of renderings

A panel counts the renderings that are started on it, and a rendering remembers the count that it
was started with. The latest rendering is the one whose generation is that of the panel
(`isLatest_of_run`). All others end with the next answer that they get, and leave the table as it
is (`State.resume_of_stale`); what goes on stays in its generation (`State.continues_resume`), and
what is started begins a new one (`State.continues_start`), unless it only sorts
(`State.ends_start`).
-/

namespace TableView.Panel

open TableView.Task (Act Roster)
open TableView.Task.Roster (Run Step)

/-- Whether an operation renders. The other ones sort what is there. -/
def Command.Renders : Command → Prop
  | renderConfig _ _ => True
  | renderQuery _ _ => True
  | sort _ _ => False

/-- The same table: the grid, the labels of its columns, its query and its error. -/
structure State.SameTable (s t : State) : Prop where
  grid : t.grid = s.grid
  labels : t.labels = s.labels
  query : t.query = s.query
  error : t.error = s.error

namespace State.SameTable

variable {s t u : State}

theorem symm (h : s.SameTable t) : t.SameTable s :=
  ⟨h.grid.symm, h.labels.symm, h.query.symm, h.error.symm⟩

theorem trans (h : s.SameTable t) (h' : t.SameTable u) : s.SameTable u :=
  ⟨h'.grid.trans h.grid, h'.labels.trans h.labels, h'.query.trans h.query,
    h'.error.trans h.error⟩

end State.SameTable

/-! ### Generations -/

namespace Suspension

/-- The generation of the rendering. -/
def generation : Suspension → Nat
  | config g _ _ => g
  | values g _ _ _ _ _ => g
  | execution g _ _ => g

end Suspension

namespace State

variable {s t : State} {g : Nat}

/-! ### Answers that come too late -/

private theorem ifLatest_of_stale (h : s.generation ≠ g) (change : State → State) :
    s.ifLatest g change = s := if_neg h

private theorem resumeConfig_of_stale (h : s.generation ≠ g) (page : Page)
    (reply : Except Failure Config) :
    ∃ r, s.resumeConfig g page reply = ({ s with loading := false }, .finished r) := by
  have stale : { s with loading := false }.generation ≠ g := h
  cases reply with
  | error f =>
    cases f with
    | engine e =>
      simp only [resumeConfig, ifLatest_of_stale stale]
      exact ⟨_, rfl⟩
    | _ => exact ⟨_, rfl⟩
  | ok c =>
    simp only [resumeConfig, if_neg h]
    exact ⟨_, rfl⟩

private theorem resumeValues_of_stale (h : s.generation ≠ g) (c : Config) (query : String)
    (r : Resolution) (ticket : Ticket) (page : Page) (reply : Except Failure (Entries Value)) :
    ∃ r', s.resumeValues g c query r ticket page reply =
      ({ s with loading := false }, .finished r') := by
  have stale : { s with loading := false }.generation ≠ g := h
  cases reply with
  | error f =>
    simp only [resumeValues, ifLatest_of_stale stale]
    exact ⟨_, rfl⟩
  | ok values =>
    simp only [resumeValues, if_neg h]
    exact ⟨_, rfl⟩

private theorem resumeExecution_of_stale (h : s.generation ≠ g) (query : String)
    (sort : Option (String × Direction)) (reply : Except Failure QueryResult) :
    ∃ r, s.resumeExecution g query sort reply = ({ s with loading := false }, .finished r) := by
  have stale : { s with loading := false }.generation ≠ g := h
  cases reply with
  | error f =>
    cases f with
    | engine e =>
      simp only [resumeExecution, ifLatest_of_stale stale]
      split
      · exact ⟨_, rfl⟩
      · exact ⟨_, rfl⟩
    | _ => exact ⟨_, rfl⟩
  | ok result =>
    simp only [resumeExecution, ifLatest_of_stale stale]
    exact ⟨_, rfl⟩

/-- A rendering that is not the latest ends with the answer to its call, and leaves the table. -/
theorem resume_of_stale (p : Suspension) (reply : p.call.Reply) (h : s.generation ≠ p.generation) :
    ∃ r, s.resume p reply = ({ s with loading := false }, .finished r) := by
  cases p with
  | config g name page => exact resumeConfig_of_stale h page reply
  | values g c query r ticket page => exact resumeValues_of_stale h c query r ticket page reply
  | execution g query sort => exact resumeExecution_of_stale h query sort reply

/-! ### What a rendering keeps -/

/-- A rendering that goes on stays in its generation, and leaves the rows while it has more calls
to make. -/
structure Continues (s : State) (r : State × Progress) : Prop where
  generation : r.1.generation = s.generation
  pending : ∀ q, r.2 = .pending q → q.generation = s.generation ∧ r.1.grid = s.grid

private theorem continues_of_finished {t : State} {r : Except Failure Rendered}
    (h : t.generation = s.generation) : s.Continues (t, .finished r) :=
  ⟨h, fun _ hq ↦ nomatch hq⟩

private theorem continues_fetch (c : Config) (query : String) (r : Resolution) (page : Page) :
    s.Continues (s.fetch s.generation c query r page) := by
  unfold fetch
  split
  · dsimp only
    split
    · exact continues_of_finished rfl
    · exact ⟨rfl, by rintro _ ⟨⟩; exact ⟨rfl, rfl⟩⟩
  · exact continues_of_finished rfl

private theorem continues_execute (query : String) (sort : Option (String × Direction)) :
    s.Continues (s.execute s.generation query sort) :=
  ⟨rfl, by rintro _ ⟨⟩; exact ⟨rfl, rfl⟩⟩

private theorem continues_renderLoaded (c : Config) (page : Page) :
    s.Continues (s.renderLoaded s.generation c page) := by
  unfold renderLoaded
  dsimp only
  split
  · exact continues_of_finished rfl
  · let labelled : State := { s with labels := Labels.ofFields (.ofSaved c.fields) }
    have kept (r : State × Progress) (h : labelled.Continues r) : s.Continues r :=
      ⟨h.generation, h.pending⟩
    split
    · exact continues_of_finished rfl
    · split
      · exact kept _ (continues_execute (s := labelled) _ _)
      · exact kept _ (continues_fetch (s := labelled) c _ _ page)

private theorem continues_of_loaded {r : State × Progress}
    (h : { s with loading := false }.Continues r) : s.Continues r :=
  ⟨h.generation, h.pending⟩

private theorem continues_resumeConfig (page : Page) (reply : Except Failure Config) :
    s.Continues (s.resumeConfig s.generation page reply) := by
  cases reply with
  | error f =>
    cases f with
    | engine e =>
      simp only [resumeConfig, ifLatest, ite_true]
      exact continues_of_finished rfl
    | _ => exact continues_of_finished rfl
  | ok c =>
    simp only [resumeConfig, ite_true]
    exact continues_of_loaded (continues_renderLoaded (s := { s with loading := false }) c page)

private theorem continues_resumeValues (c : Config) (query : String) (r : Resolution)
    (ticket : Ticket) (page : Page) (reply : Except Failure (Entries Value)) :
    s.Continues (s.resumeValues s.generation c query r ticket page reply) := by
  cases reply with
  | error f =>
    simp only [resumeValues, ifLatest, ite_true]
    exact continues_of_finished rfl
  | ok values =>
    simp only [resumeValues, ite_true]
    exact continues_of_loaded (continues_execute (s := { s with loading := false }) _ _)

private theorem showResult_generation (query : String) (sort : Option (String × Direction))
    (result : QueryResult) : (s.showResult query sort result).generation = s.generation := by
  unfold showResult
  cases sort with
  | none => rfl
  | some wanted =>
    dsimp only
    split
    · rfl
    · rfl

private theorem continues_resumeExecution (query : String) (sort : Option (String × Direction))
    (reply : Except Failure QueryResult) :
    s.Continues (s.resumeExecution s.generation query sort reply) := by
  cases reply with
  | error f =>
    cases f with
    | engine e =>
      simp only [resumeExecution, ifLatest, ite_true]
      split
      · exact continues_of_finished rfl
      · exact continues_of_finished rfl
    | _ => exact continues_of_finished rfl
  | ok result =>
    simp only [resumeExecution, ifLatest, ite_true]
    exact continues_of_finished (showResult_generation query sort result)

theorem continues_resume (p : Suspension) (reply : p.call.Reply) :
    s.Continues (s.resume p reply) := by
  by_cases h : s.generation = p.generation
  · cases p with
    | config g name page =>
      cases h
      exact continues_resumeConfig page reply
    | values g c query r ticket page =>
      cases h
      exact continues_resumeValues c query r ticket page reply
    | execution g query sort =>
      cases h
      exact continues_resumeExecution query sort reply
  · obtain ⟨r, ended⟩ := resume_of_stale p reply h
    rw [ended]
    exact continues_of_finished rfl

/-- A rendering starts in a new generation, with nothing in the table. -/
theorem continues_start {c : Command} (renders : c.Renders) :
    s.restart.Continues (s.start c) := by
  cases c with
  | renderConfig name page =>
    simp only [start]
    split
    · exact continues_of_finished rfl
    · exact ⟨rfl, by rintro _ ⟨⟩; exact ⟨rfl, rfl⟩⟩
  | renderQuery query labels => exact ⟨rfl, by rintro _ ⟨⟩; exact ⟨rfl, rfl⟩⟩
  | sort field direction => exact renders.elim

/-- An operation that does not render ends at once, in the same generation. -/
structure Ends (s : State) (r : State × Progress) : Prop where
  generation : r.1.generation = s.generation
  ended : ∀ q, r.2 ≠ .pending q
  rows : s.grid.rows = [] → r.1.grid.rows = []

theorem ends_start {c : Command} (h : ¬ c.Renders) : s.Ends (s.start c) := by
  cases c with
  | renderConfig name page => exact absurd trivial h
  | renderQuery query labels => exact absurd trivial h
  | sort field direction =>
    simp only [start]
    split
    · exact ⟨rfl, fun _ h ↦ (nomatch h), id⟩
    · refine ⟨rfl, fun _ h ↦ (nomatch h), fun none ↦ ?_⟩
      simp only [finish, Grid.sort, none, List.mergeSort_nil]

end State

/-! ### Rosters of renderings -/

/-- A new panel, on which nothing was started yet. -/
def newPanel : Roster machine := .new State.initial

variable {x x₀ x₁ y z : Roster machine} {a : Act machine} {as : List (Act machine)} {k : Nat}

/-- Whether an act starts a rendering. -/
def StartsRendering : Act machine → Prop
  | .started c => Command.Renders c
  | .answered _ _ _ => False

/-- No rendering that waits is of a later generation than the panel. -/
private def Past (x : Roster machine) : Prop :=
  ∀ (j : Nat) (p : Suspension), x.stages[j]? = some (.pending p) → p.generation ≤ x.state.generation

/-- The operation of a number is the latest rendering: of those that wait it alone is of the
generation of the panel. -/
def IsLatest (k : Nat) (x : Roster machine) : Prop :=
  ∀ (j : Nat) (p : Suspension), x.stages[j]? = some (.pending p) →
    (p.generation = x.state.generation ↔ j = k)

private theorem past_step (past : Past x) (step : Roster.Step x a y) : Past y := by
  cases step with
  | start s stages c =>
    intro j p h
    change p.generation ≤ (State.start s c).1.generation
    by_cases renders : Command.Renders c
    · have continues := State.continues_start (s := s) renders
      rw [continues.generation]
      rcases Roster.stage_start h with ⟨old, -⟩ | ⟨-, stage⟩
      · exact Nat.le_succ_of_le (past j p old)
      · exact Nat.le_of_eq (continues.pending p stage).1
    · have ends := State.ends_start (s := s) renders
      rw [ends.generation]
      rcases Roster.stage_start h with ⟨old, -⟩ | ⟨-, stage⟩
      · exact past j p old
      · exact absurd stage (ends.ended p)
  | answer s stages k p hp reply =>
    intro j q h
    have continues := State.continues_resume (s := s) p reply
    change q.generation ≤ (State.resume s p reply).1.generation
    rw [continues.generation]
    rcases Roster.stage_answer h with ⟨-, stage⟩ | ⟨-, old⟩
    · exact Nat.le_of_eq (continues.pending q stage).1
    · exact past j q old

private theorem past_of_run {s : State} (run : Run (.new s) as x) : Past x := by
  refine run.invariant (A := fun _ ↦ True) (I := fun _ x ↦ Past x) (fun _ _ ↦ trivial) ?_ ?_
  · exact fun j p h ↦ nomatch h
  · exact fun _ _ _ _ past _ step ↦ past_step past step

/-- A rendering that has just been started is the latest one. -/
private theorem isLatest_of_start {c : Command} (past : Past x) (renders : c.Renders)
    (step : Step x (.started c) y) : IsLatest x.stages.length y := by
  cases step with
  | start s stages =>
    intro j p h
    have continues := State.continues_start (s := s) renders
    change p.generation = (State.start s c).1.generation ↔ j = stages.length
    rw [continues.generation]
    rcases Roster.stage_start h with ⟨old, other⟩ | ⟨same, stage⟩
    · refine iff_of_false (fun newer ↦ ?_) other
      have older := past j p old
      rw [newer] at older
      exact Nat.not_succ_le_self _ older
    · exact iff_of_true (continues.pending p stage).1 same

/-- It stays the latest one until another one is started. -/
theorem isLatest_step (latest : IsLatest k x) (step : Step x a y)
    (none : ¬ StartsRendering a) : IsLatest k y := by
  cases step with
  | start s stages c =>
    intro j p h
    have ends := State.ends_start (s := s) (c := c) none
    change p.generation = (State.start s c).1.generation ↔ j = k
    rw [ends.generation]
    rcases Roster.stage_start h with ⟨old, -⟩ | ⟨-, stage⟩
    · exact latest j p old
    · exact absurd stage (ends.ended p)
  | answer s stages i p hp reply =>
    intro j q h
    have continues := State.continues_resume (s := s) p reply
    change q.generation = (State.resume s p reply).1.generation ↔ j = k
    rw [continues.generation]
    rcases Roster.stage_answer h with ⟨rfl, stage⟩ | ⟨-, old⟩
    · refine iff_of_true (continues.pending q stage).1 (Decidable.byContradiction fun other ↦ ?_)
      -- An older rendering would have ended with this answer.
      have stale : s.generation ≠ p.generation := fun same ↦ other ((latest j p hp).mp same.symm)
      obtain ⟨r, ended⟩ := State.resume_of_stale p reply stale
      exact nomatch (congrArg Prod.snd ended).symm.trans stage
    · exact latest j q old

/-- The latest rendering of a run is the latest one afterwards. -/
theorem isLatest_of_run {s : State} {c : Command} {history : List (Act machine)}
    (before : Run (.new s) history x₀) (renders : c.Renders) (first : Step x₀ (.started c) x₁)
    (run : Run x₁ as y) (last : ∀ a ∈ as, ¬ StartsRendering a) : IsLatest x₀.stages.length y :=
  run.invariant (I := fun _ y ↦ IsLatest x₀.stages.length y) last
    (isLatest_of_start (past_of_run before) renders first)
    fun _ _ _ _ latest none step ↦ isLatest_step latest step none

/-- The answer to any other rendering leaves the table. -/
theorem sameTable_of_answer {j : Nat} {call : Call} {reply : call.Reply}
    (latest : IsLatest k y) (step : Step y (.answered j call reply) z) (other : j ≠ k) :
    y.state.SameTable z.state := by
  cases step with
  | answer s stages _ p hp reply =>
    have stale : s.generation ≠ p.generation := fun same ↦ other ((latest j p hp).mp same.symm)
    obtain ⟨r, ended⟩ := State.resume_of_stale p reply stale
    change s.SameTable (State.resume s p reply).1
    rw [ended]
    exact ⟨rfl, rfl, rfl, rfl⟩

end TableView.Panel
