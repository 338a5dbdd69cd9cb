import TableView.Proofs.Entries
import TableView.Task.Desk

/-!
# Runs of overlapping operations

A scene is the state of a machine together with the operations that are suspended on it. An event
starts an operation or gives a suspended one its reply, and a run is a list of events in the order
in which they happen. Nothing fixes which operation goes on next, so the runs from a scene are all
interleavings of all operations.

What holds at first and is kept by every event holds after every run (`Run.invariant`). Whatever
is done at a desk is a run of its scene (`Desk.step_start`, `Desk.run_goOn`, `Desk.run_run`).
-/

namespace TableView.Task

/-- The suspension in which an operation waits, if it does. -/
def Progress.waiting {Suspension Result : Type} : Progress Suspension Result → List Suspension
  | pending p => [p]
  | finished _ => []

/-- A state and the operations that are suspended on it. -/
structure Scene (M : Machine) where
  state : M.State
  waiting : List M.Suspension

/-- What happens to a scene: an operation is started, or a suspended one gets a reply. -/
inductive Event (M : Machine)
  | started (c : M.Command)
  | resumed (p : M.Suspension) (reply : M.Reply (M.call p))

/-- Whether the reply of an event is one that is allowed for its call. -/
def Event.Obeys {M : Machine} (allowed : (c : M.Call) → M.Reply c → Prop) : Event M → Prop
  | started _ => True
  | resumed p reply => allowed (M.call p) reply

/-- One event at a scene. Where an operation stands among the suspended ones has no meaning. -/
inductive Step {M : Machine} : Scene M → Event M → Scene M → Prop
  | start (s : M.State) (before after : List M.Suspension) (c : M.Command) :
    Step ⟨s, before ++ after⟩ (.started c)
      ⟨(M.start s c).1, before ++ (M.start s c).2.waiting ++ after⟩
  | resume (s : M.State) (before after : List M.Suspension) (p : M.Suspension)
      (reply : M.Reply (M.call p)) :
    Step ⟨s, before ++ p :: after⟩ (.resumed p reply)
      ⟨(M.resume s p reply).1, before ++ (M.resume s p reply).2.waiting ++ after⟩

/-- Events that lead from one scene to another, in order. -/
inductive Run {M : Machine} (x : Scene M) : List (Event M) → Scene M → Prop
  | nil : Run x [] x
  | snoc {es : List (Event M)} {y z : Scene M} {e : Event M} :
    Run x es y → Step y e z → Run x (es ++ [e]) z

/-- What is suspended when an operation starts stays suspended. -/
theorem mem_of_mem_around {α : Type} {a : α} {before after : List α} (w : List α)
    (h : a ∈ before ++ after) : a ∈ before ++ w ++ after := by
  rcases List.mem_append.mp h with hb | ha
  · exact List.mem_append_left _ (List.mem_append_left _ hb)
  · exact List.mem_append_right _ ha

theorem mem_of_mem_between {α : Type} {a : α} (before after : List α) {w : List α} (h : a ∈ w) :
    a ∈ before ++ w ++ after :=
  List.mem_append_left _ (List.mem_append_right _ h)

/-- What is suspended beside an operation that goes on stays suspended. -/
theorem mem_of_mem_beside {α : Type} {a p : α} {before after : List α} (w : List α)
    (h : a ∈ before ++ p :: after) (hp : a ≠ p) : a ∈ before ++ w ++ after := by
  rcases List.mem_append.mp h with hb | ha
  · exact List.mem_append_left _ (List.mem_append_left _ hb)
  · exact List.mem_append_right _ ((List.mem_cons.mp ha).resolve_left hp)

/-- What is suspended stays so, unless it is what gets the reply. -/
theorem Step.mem_waiting {M : Machine} {x y : Scene M} {e : Event M} (step : Step x e y)
    {p : M.Suspension} (hp : p ∈ x.waiting) (other : ∀ reply, e ≠ .resumed p reply) :
    p ∈ y.waiting := by
  cases step with
  | start s before after c => exact mem_of_mem_around _ hp
  | resume s before after q reply =>
    refine mem_of_mem_beside _ hp ?_
    rintro rfl
    exact other reply rfl

/-- What gets a reply was suspended. -/
theorem Step.mem_of_resumed {M : Machine} {x y : Scene M} {p : M.Suspension}
    {reply : M.Reply (M.call p)} (step : Step x (.resumed p reply) y) : p ∈ x.waiting := by
  cases step with
  | resume s before after => exact List.mem_append_right _ List.mem_cons_self

namespace Scene

variable {M : Machine}

/-- The scene after an operation has been started. -/
def start (x : Scene M) (c : M.Command) : Scene M :=
  ⟨(M.start x.state c).1, x.waiting ++ (M.start x.state c).2.waiting⟩

/-- The scene after an operation that waited between others got its reply. -/
def resume (x : Scene M) (before after : List M.Suspension) (p : M.Suspension)
    (reply : M.Reply (M.call p)) : Scene M :=
  ⟨(M.resume x.state p reply).1, before ++ (M.resume x.state p reply).2.waiting ++ after⟩

theorem step_start (x : Scene M) (c : M.Command) : Step x (.started c) (x.start c) := by
  have h := Step.start x.state x.waiting [] c
  rwa [List.append_nil, List.append_nil] at h

theorem step_resume (x : Scene M) (before after : List M.Suspension) (p : M.Suspension)
    (h : x.waiting = before ++ p :: after) (reply : M.Reply (M.call p)) :
    Step x (.resumed p reply) (x.resume before after p reply) := by
  have hs := Step.resume x.state before after p reply
  rwa [← h] at hs

end Scene

namespace Run

variable {M : Machine} {x y z : Scene M} {es fs : List (Event M)} {e : Event M}

/-- What holds of no events at the first scene, and is kept by every event that may happen, holds
after every run of such events. -/
theorem invariant {A : Event M → Prop} {I : List (Event M) → Scene M → Prop}
    (run : Run x es y) (all : ∀ e ∈ es, A e) (first : I [] x)
    (next : ∀ es y e z, I es y → A e → Step y e z → I (es ++ [e]) z) : I es y := by
  induction run with
  | nil => exact first
  | snoc run step ih =>
    have before : I _ _ := ih fun e he ↦ all e (List.mem_append_left _ he)
    exact next _ _ _ _ before (all _ (List.mem_append_right _ (List.mem_singleton_self _))) step

theorem single (step : Step x e y) : Run x [e] y :=
  .snoc .nil step

theorem start (run : Run x es y) (c : M.Command) : Run x (es ++ [.started c]) (y.start c) :=
  .snoc run (y.step_start c)

theorem resume (run : Run x es y) (before after : List M.Suspension) (p : M.Suspension)
    (h : y.waiting = before ++ p :: after) (reply : M.Reply (M.call p)) :
    Run x (es ++ [.resumed p reply]) (y.resume before after p reply) :=
  .snoc run (y.step_resume before after p h reply)

/-- Operations that are started one after another. -/
theorem starts (run : Run x es y) (cs : List M.Command) :
    Run x (es ++ cs.map .started) (cs.foldl Scene.start y) := by
  induction cs generalizing es y with
  | nil => rwa [List.map_nil, List.append_nil]
  | cons c rest ih =>
    have next := ih (run.start c)
    rwa [List.append_assoc] at next

theorem append (first : Run x es y) (second : Run y fs z) : Run x (es ++ fs) z := by
  induction second with
  | nil => rwa [List.append_nil]
  | snoc _ step ih =>
    rw [← List.append_assoc]
    exact .snoc ih step

end Run

/-! ### Desks -/

namespace Desk

variable {M : Machine} {World : Type} (outside : M.Outside World)

/-- What is suspended among the operations kept under names. -/
def waiting (kept : Entries M.Stage) : List M.Suspension :=
  kept.flatMap fun e ↦ e.2.waiting

/-- The scene at a desk. -/
def scene (d : Desk M World) : Scene M := ⟨d.state, waiting d.kept⟩

/-- Whether a reply comes from outside, as some world answers the call. -/
def Answers (c : M.Call) (reply : M.Reply c) : Prop :=
  ∃ w : World, (outside w c).1 = reply

private theorem waiting_cons (e : String × M.Stage) (kept : Entries M.Stage) :
    waiting (e :: kept) = e.2.waiting ++ waiting kept := rfl

/-- A name under which nothing waits can be given to a stage: nothing else changes. -/
private theorem waiting_put_free (kept : Entries M.Stage) (name : String) (stage : M.Stage)
    (free : ∀ p, kept.get? name ≠ some (.pending p)) :
    ∃ before after, waiting kept = before ++ after ∧
      waiting (kept.put name stage) = before ++ stage.waiting ++ after := by
  induction kept with
  | nil => exact ⟨[], [], rfl, by simp [waiting, Entries.put]⟩
  | cons e rest ih =>
    by_cases he : e.1 = name
    · subst he
      have hf : e.2.waiting = [] := by
        cases hs : e.2 with
        | pending p => exact absurd (by rw [Entries.get?_cons, if_pos rfl, hs]) (free p)
        | finished r => rfl
      refine ⟨[], waiting rest, ?_, ?_⟩
      · rw [waiting_cons, hf]
      · simp [Entries.put, waiting_cons]
    · have hr : ∀ p, Entries.get? rest name ≠ some (.pending p) := by
        intro p hp
        apply free p
        rwa [Entries.get?_cons, if_neg he]
      obtain ⟨before, after, hb, ha⟩ := ih hr
      refine ⟨e.2.waiting ++ before, after, ?_, ?_⟩
      · rw [waiting_cons, hb, List.append_assoc]
      · simp only [Entries.put, he, ite_false, waiting_cons, ha, List.append_assoc]

/-- A stage put in the place of one that waits takes over its place. -/
private theorem waiting_put_pending (kept : Entries M.Stage) (name : String) (stage : M.Stage)
    (p : M.Suspension) (h : kept.get? name = some (.pending p)) :
    ∃ before after, waiting kept = before ++ p :: after ∧
      waiting (kept.put name stage) = before ++ stage.waiting ++ after := by
  induction kept with
  | nil => simp [Entries.get?] at h
  | cons e rest ih =>
    by_cases he : e.1 = name
    · subst he
      have hs : e.2 = .pending p := by
        rw [Entries.get?_cons, if_pos rfl] at h
        exact Option.some.inj h
      refine ⟨[], waiting rest, ?_, ?_⟩
      · rw [waiting_cons, hs]
        rfl
      · simp [Entries.put, waiting_cons]
    · have hr : Entries.get? rest name = some (.pending p) := by
        rwa [Entries.get?_cons, if_neg he] at h
      obtain ⟨before, after, hb, ha⟩ := ih hr
      refine ⟨e.2.waiting ++ before, after, ?_, ?_⟩
      · rw [waiting_cons, hb, List.append_assoc]
      · simp only [Entries.put, he, ite_false, waiting_cons, ha, List.append_assoc]

/-- To start an operation under a name where none waits is one event. -/
theorem step_start (d : Desk M World) (name : String) (c : M.Command)
    (free : ∀ p, d.kept.get? name ≠ some (.pending p)) :
    Step d.scene (.started c) (d.start name c).1.scene := by
  obtain ⟨before, after, hb, ha⟩ :=
    waiting_put_free d.kept name (M.start d.state c).2 free
  have hs : d.scene = ⟨d.state, before ++ after⟩ := congrArg (Scene.mk d.state) hb
  have ht : (d.start name c).1.scene =
      ⟨(M.start d.state c).1, before ++ (M.start d.state c).2.waiting ++ after⟩ :=
    congrArg (Scene.mk (M.start d.state c).1) ha
  rw [hs, ht]
  exact .start d.state before after c

/-- To go on with a kept operation is at most one event, answered from outside. -/
theorem run_goOn (d : Desk M World) (name : String) :
    ∃ es, Run d.scene es (d.goOn outside name).1.scene ∧ ∀ e ∈ es, e.Obeys (Answers outside) := by
  unfold goOn
  split
  · next p hp =>
    let reply := (outside d.world (M.call p)).1
    obtain ⟨before, after, hb, ha⟩ :=
      waiting_put_pending d.kept name (M.resume d.state p reply).2 p hp
    refine ⟨[.resumed p reply], .single ?_, ?_⟩
    · have hs : d.scene = ⟨d.state, before ++ p :: after⟩ := congrArg (Scene.mk d.state) hb
      have ht : Step ⟨d.state, before ++ p :: after⟩ (.resumed p reply)
          ⟨(M.resume d.state p reply).1, before ++ (M.resume d.state p reply).2.waiting ++ after⟩ :=
        .resume d.state before after p reply
      rw [← ha, ← hs] at ht
      exact ht
    · intro e he
      rw [List.mem_singleton.mp he]
      exact ⟨d.world, rfl⟩
  · exact ⟨[], .nil, by simp⟩
  · exact ⟨[], .nil, by simp⟩

/-- Going on with an operation for some calls is a run of the desk with the operation beside it. -/
theorem run_settle (fuel : Nat) (d : Desk M World) (stage : M.Stage) :
    ∃ es, Run ⟨d.state, waiting d.kept ++ stage.waiting⟩ es
        ⟨(settle outside fuel d stage).1.state,
          waiting (settle outside fuel d stage).1.kept ++
            (settle outside fuel d stage).2.stage.waiting⟩ ∧
      ∀ e ∈ es, e.Obeys (Answers outside) := by
  induction fuel generalizing d stage with
  | zero => exact ⟨[], by cases stage <;> exact .nil, by simp⟩
  | succ fuel ih =>
    cases stage with
    | finished r => exact ⟨[], .nil, by simp⟩
    | pending p =>
      let reply := (outside d.world (M.call p)).1
      have step : Step ⟨d.state, waiting d.kept ++ [p]⟩ (.resumed p reply)
          ⟨(M.resume d.state p reply).1,
            waiting d.kept ++ (M.resume d.state p reply).2.waiting ++ []⟩ :=
        .resume d.state (waiting d.kept) [] p reply
      rw [List.append_nil] at step
      obtain ⟨es, run, all⟩ := ih (proceed outside d p).1 (M.resume d.state p reply).2
      refine ⟨.resumed p reply :: es, (Run.single step).append run, ?_⟩
      intro e he
      rcases List.mem_cons.mp he with rfl | he
      · exact ⟨d.world, rfl⟩
      · exact all e he

/-- To run an operation at a desk is a run of its scene; what the operation still waits for in the
end stands beside what is kept. -/
theorem run_run (d : Desk M World) (c : M.Command) :
    ∃ es, Run d.scene (.started c :: es)
        ⟨(d.run outside c).1.state,
          waiting (d.run outside c).1.kept ++ (d.run outside c).2.stage.waiting⟩ ∧
      ∀ e ∈ es, e.Obeys (Answers outside) := by
  have step : Step ⟨d.state, waiting d.kept ++ []⟩ (.started c)
      ⟨(M.start d.state c).1, waiting d.kept ++ (M.start d.state c).2.waiting ++ []⟩ :=
    .start d.state (waiting d.kept) [] c
  rw [List.append_nil, List.append_nil] at step
  obtain ⟨es, run, all⟩ := run_settle outside (callsLeft (M.start d.state c).2)
    { d with state := (M.start d.state c).1 } (M.start d.state c).2
  exact ⟨es, (Run.single step).append run, all⟩

end Desk

end TableView.Task
