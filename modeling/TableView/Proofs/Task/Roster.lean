import TableView.Proofs.Task.Scene

/-!
# Operations by their numbers

A roster is the state of a machine together with all operations that were started on it, in the
order of their starts, each with how far it has come. The number of an operation is its place. An
act is an event as it is seen from outside: an operation is started, or the operation of a number
gets the answer to a call. So the answers to one operation can be told apart from those to the
others, and what was done with one roster can be done with another one.

Numbers cost no interleaving: every run of a scene is a run of a roster (`Roster.exists_run`).
-/

namespace TableView.Task

/-- A state and the operations that were started on it, first one first. -/
structure Roster (M : Machine) where
  state : M.State
  stages : List M.Stage

/-- What happens to a roster: an operation is started, or a suspended one gets the answer to its
call. -/
inductive Act (M : Machine)
  | started (c : M.Command)
  | answered (number : Nat) (call : M.Call) (reply : M.Reply call)

namespace Roster

variable {M : Machine}

/-- A state on which no operation was started yet. -/
def new (s : M.State) : Roster M := ⟨s, []⟩

/-- One act on a roster. -/
inductive Step : Roster M → Act M → Roster M → Prop
  | start (s : M.State) (stages : List M.Stage) (c : M.Command) :
    Step ⟨s, stages⟩ (.started c) ⟨(M.start s c).1, stages ++ [(M.start s c).2]⟩
  | answer (s : M.State) (stages : List M.Stage) (k : Nat) (p : M.Suspension)
      (h : stages[k]? = some (.pending p)) (reply : M.Reply (M.call p)) :
    Step ⟨s, stages⟩ (.answered k (M.call p) reply)
      ⟨(M.resume s p reply).1, stages.set k (M.resume s p reply).2⟩

/-- Acts that lead from one roster to another, in order. -/
inductive Run (x : Roster M) : List (Act M) → Roster M → Prop
  | nil : Run x [] x
  | snoc {as : List (Act M)} {y z : Roster M} {a : Act M} :
    Run x as y → Step y a z → Run x (as ++ [a]) z

/-- The roster after an operation has been started. -/
def start (x : Roster M) (c : M.Command) : Roster M :=
  ⟨(M.start x.state c).1, x.stages ++ [(M.start x.state c).2]⟩

/-- The roster after the operation of a number, in its suspension, got its answer. -/
def answer (x : Roster M) (k : Nat) (p : M.Suspension) (reply : M.Reply (M.call p)) : Roster M :=
  ⟨(M.resume x.state p reply).1, x.stages.set k (M.resume x.state p reply).2⟩

theorem step_start (x : Roster M) (c : M.Command) : Step x (.started c) (x.start c) :=
  .start x.state x.stages c

theorem step_answer (x : Roster M) (k : Nat) (p : M.Suspension)
    (h : x.stages[k]? = some (.pending p)) (reply : M.Reply (M.call p)) :
    Step x (.answered k (M.call p) reply) (x.answer k p reply) :=
  .answer x.state x.stages k p h reply

namespace Run

variable {x y : Roster M} {as : List (Act M)} {a : Act M}

/-- What holds of no acts at the first roster, and is kept by every act that may happen, holds
after every run of such acts. -/
theorem invariant {A : Act M → Prop} {I : List (Act M) → Roster M → Prop} (run : Run x as y)
    (all : ∀ a ∈ as, A a) (first : I [] x)
    (next : ∀ as y a z, I as y → A a → Step y a z → I (as ++ [a]) z) : I as y := by
  induction run with
  | nil => exact first
  | snoc run step ih =>
    have before : I _ _ := ih fun a ha ↦ all a (List.mem_append_left _ ha)
    exact next _ _ _ _ before (all _ (List.mem_append_right _ (List.mem_singleton_self _))) step

theorem single (step : Step x a y) : Run x [a] y :=
  .snoc .nil step

theorem append {bs : List (Act M)} {z : Roster M} (first : Run x as y) (second : Run y bs z) :
    Run x (as ++ bs) z := by
  induction second with
  | nil => rwa [List.append_nil]
  | snoc _ step ih =>
    rw [← List.append_assoc]
    exact .snoc ih step

theorem start (run : Run x as y) (c : M.Command) : Run x (as ++ [.started c]) (y.start c) :=
  .snoc run (y.step_start c)

theorem answer (run : Run x as y) (k : Nat) (p : M.Suspension)
    (h : y.stages[k]? = some (.pending p)) (reply : M.Reply (M.call p)) :
    Run x (as ++ [.answered k (M.call p) reply]) (y.answer k p reply) :=
  .snoc run (y.step_answer k p h reply)

end Run

/-- Of the operations after a start, the last one is the new one. -/
theorem stage_start {s : M.State} {stages : List M.Stage} {c : M.Command} {j : Nat}
    {stage : M.Stage} (h : (stages ++ [(M.start s c).2])[j]? = some stage) :
    stages[j]? = some stage ∧ j ≠ stages.length ∨
      j = stages.length ∧ (M.start s c).2 = stage := by
  rcases Nat.lt_trichotomy j stages.length with before | rfl | after
  · rw [List.getElem?_append_left before] at h
    exact .inl ⟨h, Nat.ne_of_lt before⟩
  · rw [List.getElem?_concat_length] at h
    exact .inr ⟨rfl, Option.some.inj h⟩
  · rw [List.getElem?_eq_none] at h
    · cases h
    · rwa [List.length_append, List.length_singleton, Nat.succ_le_iff]

/-- An answer leaves all operations but its own where they are. -/
theorem stage_answer {stages : List M.Stage} {k j : Nat} {next stage : M.Stage}
    (h : (stages.set k next)[j]? = some stage) :
    j = k ∧ next = stage ∨ j ≠ k ∧ stages[j]? = some stage := by
  rw [List.getElem?_set] at h
  split at h
  · next same =>
    split at h
    · exact .inl ⟨same.symm, Option.some.inj h⟩
    · cases h
  · next other => exact .inr ⟨Ne.symm other, h⟩

/-- An operation stays where it is until it is answered, and then goes on from there. -/
theorem stage_step {x y : Roster M} {a : Act M} {k : Nat} {stage : M.Stage} (step : Step x a y)
    (h : x.stages[k]? = some stage) :
    y.stages[k]? = some stage ∨ ∃ (p : M.Suspension) (reply : M.Reply (M.call p)),
      stage = .pending p ∧ a = .answered k (M.call p) reply ∧
        y.stages[k]? = some (M.resume x.state p reply).2 := by
  obtain ⟨bound, -⟩ := List.getElem?_eq_some_iff.mp h
  cases step with
  | start s stages c =>
    refine .inl ?_
    rw [List.getElem?_append_left bound]
    exact h
  | answer s stages j p hp reply =>
    by_cases own : j = k
    · subst own
      exact .inr ⟨p, reply, Option.some.inj (h.symm.trans hp), rfl, List.getElem?_set_self bound⟩
    · refine .inl ?_
      rw [List.getElem?_set_ne own]
      exact h

/-! ### Rosters of scenes -/

/-- What is suspended among the operations. -/
def waiting (x : Roster M) : List M.Suspension := x.stages.flatMap Progress.waiting

private theorem exists_number (stages : List M.Stage) (p : M.Suspension)
    (h : p ∈ stages.flatMap Progress.waiting) :
    ∃ before after, stages = before ++ .pending p :: after := by
  obtain ⟨stage, mem, hp⟩ := List.mem_flatMap.mp h
  obtain ⟨before, after, rfl⟩ := List.append_of_mem mem
  refine ⟨before, after, ?_⟩
  cases stage with
  | pending q =>
    rw [Progress.waiting, List.mem_singleton] at hp
    rw [hp]
  | finished r => cases hp

private theorem perm_around {α : Type} {a b c d : List α} (h : (a ++ b).Perm (c ++ d))
    (w : List α) : (a ++ w ++ b).Perm (c ++ w ++ d) := by
  have front (l r : List α) : (l ++ w ++ r).Perm (w ++ (l ++ r)) := by
    rw [← List.append_assoc w]
    exact List.perm_append_comm.append_right r
  exact (front a b).trans ((h.append_left w).trans (front c d).symm)

/-- Every event at a scene is an act on a roster of its operations. -/
private theorem exists_step {x : Roster M} {v w : Scene M} {e : Event M} (step : Task.Step v e w)
    (state : x.state = v.state) (waits : x.waiting.Perm v.waiting) :
    ∃ a y, Step x a y ∧ y.state = w.state ∧ y.waiting.Perm w.waiting := by
  rcases x with ⟨s, stages⟩
  cases step with
  | start _ before after c =>
    cases state
    refine ⟨_, _, .start s stages c, rfl, ?_⟩
    have joined : (waiting ⟨s, stages⟩ ++ []).Perm (before ++ after) := by
      rw [List.append_nil]
      exact waits
    simpa [waiting] using perm_around joined (M.start s c).2.waiting
  | resume _ before after p reply =>
    cases state
    have mem : p ∈ waiting ⟨s, stages⟩ :=
      waits.mem_iff.mpr (List.mem_append_right _ List.mem_cons_self)
    obtain ⟨front, back, rfl⟩ := exists_number stages p mem
    have place : (front ++ .pending p :: back)[front.length]? = some (.pending p) := by simp
    refine ⟨_, _, .answer s _ front.length p place reply, rfl, ?_⟩
    have pulled : (p :: (front.flatMap Progress.waiting ++ back.flatMap Progress.waiting)).Perm
        (p :: (before ++ after)) := by
      refine List.perm_middle.symm.trans (List.Perm.trans ?_ List.perm_middle)
      simpa [waiting, Progress.waiting] using waits
    have beside := (List.perm_cons p).mp pulled
    simpa [waiting] using perm_around beside (M.resume s p reply).2.waiting

/-- Every run from a scene with nothing suspended is a run of a roster: it leaves the same state
and the same suspensions. -/
theorem exists_run {s : M.State} {w : Scene M} {es : List (Event M)}
    (run : Task.Run ⟨s, []⟩ es w) :
    ∃ as y, Run (new s) as y ∧ y.state = w.state ∧ y.waiting.Perm w.waiting := by
  induction run with
  | nil => exact ⟨[], new s, .nil, rfl, .refl _⟩
  | snoc _ step ih =>
    obtain ⟨as, y, run, state, waits⟩ := ih
    obtain ⟨a, z, next, state', waits'⟩ := exists_step step state waits
    exact ⟨as ++ [a], z, .snoc run next, state', waits'⟩

end Roster

end TableView.Task
