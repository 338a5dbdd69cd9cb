import TableView.Task.Desk

/-!
# Operations run at a desk

An operation that is run to its end makes one call after another: each reply leaves a state, a world
and the operation at its next call, until there is none. Operations that are run one after another
take the state on as long as they end with a result (`Leads`), and leave a desk for the next ones
(`Passes`). A world may hold more than what the replies depend on, such as a log of the calls: that
changes nothing of what is run (`runAll_seen`).
-/

namespace TableView.Task.Desk

variable {M : Machine} {World : Type} (outside : M.Outside World) {d : Desk M World}
  {c : M.Command} {p : M.Suspension} {s s' : M.State} {stage : M.Stage}
  {r : Except Failure M.Result} {reply : M.Reply (M.call p)} {w : World}

/-- To run an operation is to start it and to go on with it for as many calls as it can make. -/
theorem run_of_start (start : M.start d.state c = (s, stage)) :
    d.run outside c = settle outside (callsLeft stage) { d with state := s } stage := by
  unfold run
  rw [start]

theorem settle_finished (fuel : Nat) :
    settle outside fuel d (.finished r) = (d, ⟨[], .finished r⟩) := by
  cases fuel with
  | zero => rfl
  | succ fuel => rfl

/-- An operation that makes no call any more has ended. -/
theorem finished_of_no_calls {fuel : Nat}
    (h : (settle outside (fuel + 1) d stage).2.calls = []) : ∃ r, stage = .finished r := by
  cases stage with
  | pending p =>
    rw [settle] at h
    nomatch h
  | finished r => exact ⟨r, rfl⟩

private theorem proceed_of_reply (answer : outside d.world (M.call p) = (reply, w))
    (resume : M.resume d.state p reply = (s, stage)) :
    proceed outside d p = ({ d with state := s, world := w }, stage) := by
  unfold proceed
  rw [answer]
  exact congrArg (fun next ↦ (({ d with state := next.1, world := w } : Desk M World), next.2))
    resume

/-- A call and its reply, and whatever comes after it. -/
theorem settle_of_reply (fuel : Nat) (answer : outside d.world (M.call p) = (reply, w))
    (resume : M.resume d.state p reply = (s, stage)) :
    settle outside (fuel + 1) d (.pending p) =
      ((settle outside fuel { d with state := s, world := w } stage).1,
        ⟨M.call p :: (settle outside fuel { d with state := s, world := w } stage).2.calls,
          (settle outside fuel { d with state := s, world := w } stage).2.stage⟩) := by
  rw [settle, proceed_of_reply outside answer resume]

theorem run_of_no_call (start : M.start d.state c = (s, .finished r)) :
    d.run outside c = ({ d with state := s }, ⟨[], .finished r⟩) := by
  rw [run_of_start outside start, settle_finished]

/-- An operation that ends when it has got its first reply makes no other call. -/
theorem run_of_one_reply (fuel : Nat) (start : M.start d.state c = (s, .pending p))
    (calls : M.callsLeft p = fuel + 1) (answer : outside d.world (M.call p) = (reply, w))
    (resume : M.resume s p reply = (s', .finished r)) :
    d.run outside c = ({ d with state := s', world := w }, ⟨[M.call p], .finished r⟩) := by
  rw [run_of_start outside start, callsLeft, calls]
  rw [settle_of_reply outside fuel (d := { d with state := s }) answer resume, settle_finished]

/-- An operation with a single call to make is at its end when it has got the reply. -/
theorem run_of_single_call (start : M.start d.state c = (s, .pending p))
    (single : M.callsLeft p = 1) (answer : outside d.world (M.call p) = (reply, w))
    (resume : M.resume s p reply = (s', .finished r)) :
    d.run outside c = ({ d with state := s', world := w }, ⟨[M.call p], .finished r⟩) :=
  run_of_one_reply outside 0 start single answer resume

/-- An operation that makes another call when it has got its first reply goes on with the second. -/
theorem run_of_two_calls {q : M.Suspension} {next : M.Reply (M.call q)} {s₁ s₂ : M.State}
    {v : World} (fuel : Nat) (start : M.start d.state c = (s₁, .pending p))
    (calls : M.callsLeft p = fuel + 2) (first : outside d.world (M.call p) = (reply, v))
    (resume : M.resume s₁ p reply = (s₂, .pending q)) (second : outside v (M.call q) = (next, w))
    (resume' : M.resume s₂ q next = (s, stage)) :
    (d.run outside c).1 = (settle outside fuel { d with state := s, world := w } stage).1 ∧
      (d.run outside c).2.stage =
        (settle outside fuel { d with state := s, world := w } stage).2.stage := by
  rw [run_of_start outside start, callsLeft, calls]
  rw [settle_of_reply outside (fuel + 1) (d := { d with state := s₁ }) first resume,
    settle_of_reply outside fuel (d := { d with state := s₂, world := v }) second resume']
  exact ⟨rfl, rfl⟩

/-- Operations are run one after another, each of them ends with a result, and a state is left. -/
structure Leads (d : Desk M World) (cs : List M.Command) (s : M.State) : Prop where
  ended : ∀ report ∈ (d.runAll outside cs).2, ∃ r, report.stage = .finished (.ok r)
  state : (d.runAll outside cs).1.state = s

theorem leads_nil (same : d.state = s) : Leads outside d [] s :=
  ⟨fun _ h ↦ (nomatch h), same⟩

/-- After an operation that has ended with a result the next ones are run. -/
theorem runAll_of_run {d' : Desk M World} {calls : List M.Call} {result : M.Result}
    (cs : List M.Command) (run : d.run outside c = (d', ⟨calls, .finished (.ok result)⟩)) :
    runAll outside d (c :: cs) = ((runAll outside d' cs).1,
      ⟨calls, .finished (.ok result)⟩ :: (runAll outside d' cs).2) := by
  rw [runAll, run]
  rfl

/-- After an operation that has failed no other is run. -/
theorem runAll_of_failed {d' : Desk M World} {calls : List M.Call} {f : Failure}
    (cs : List M.Command) (run : d.run outside c = (d', ⟨calls, .finished (.error f)⟩)) :
    runAll outside d (c :: cs) = (d', [⟨calls, .finished (.error f)⟩]) := by
  rw [runAll, run]
  rfl

theorem leads_cons {d' : Desk M World} {calls : List M.Call} {result : M.Result}
    {cs : List M.Command} (run : d.run outside c = (d', ⟨calls, .finished (.ok result)⟩))
    (later : Leads outside d' cs s) : Leads outside d (c :: cs) s := by
  constructor
  · intro report mem
    rw [runAll_of_run outside cs run] at mem
    rcases List.mem_cons.mp mem with rfl | mem
    · exact ⟨result, rfl⟩
    · exact later.ended report mem
  · rw [runAll_of_run outside cs run]
    exact later.state

/-- Operations that are run one after another leave a desk, and whatever comes next is run at it. -/
def Passes (d : Desk M World) (cs : List M.Command) (d' : Desk M World) : Prop :=
  ∀ later, (runAll outside d (cs ++ later)).1 = (runAll outside d' later).1

namespace Passes

variable {d₁ d₂ : Desk M World} {cs others : List M.Command}

theorem nil (d : Desk M World) : Passes outside d [] d := fun _ ↦ rfl

theorem single {calls : List M.Call} {result : M.Result}
    (run : d.run outside c = (d₁, ⟨calls, .finished (.ok result)⟩)) : Passes outside d [c] d₁ := by
  intro later
  rw [List.singleton_append, runAll_of_run outside later run]

theorem append (first : Passes outside d cs d₁) (second : Passes outside d₁ others d₂) :
    Passes outside d (cs ++ others) d₂ := by
  intro later
  rw [List.append_assoc, first, second]

theorem runAll_fst (passes : Passes outside d cs d₁) : (runAll outside d cs).1 = d₁ := by
  have all := passes []
  rwa [List.append_nil] at all

end Passes

/-! ### Worlds that hold more -/

section Seen

variable {Whole : Type} (whole : M.Outside Whole) (see : Whole → World)

/-- A part of a world answers all calls as the whole of it does, and nothing else changes it. -/
def Extends : Prop :=
  ∀ v c, (whole v c).1 = (outside (see v) c).1 ∧ see (whole v c).2 = (outside (see v) c).2

/-- A desk with the part of its world that is seen. -/
def seen (d : Desk M Whole) : Desk M World := ⟨d.state, see d.world, d.kept⟩

variable {outside whole see} (extends' : Extends outside whole see)
include extends'

private theorem proceed_seen (d : Desk M Whole) (p : M.Suspension) :
    proceed outside (d.seen see) p =
      ((proceed whole d p).1.seen see, (proceed whole d p).2) := by
  obtain ⟨reply, world⟩ := extends' d.world (M.call p)
  simp only [proceed, seen, reply, world]

private theorem settle_seen (fuel : Nat) (d : Desk M Whole) (stage : M.Stage) :
    settle outside fuel (d.seen see) stage =
      ((settle whole fuel d stage).1.seen see, (settle whole fuel d stage).2) := by
  induction fuel generalizing d stage with
  | zero => cases stage <;> rfl
  | succ fuel ih =>
    cases stage with
    | finished r => rfl
    | pending p => simp only [settle, proceed_seen extends', ih]

/-- What more a world holds makes no difference to what is run. -/
theorem runAll_seen (d : Desk M Whole) (cs : List M.Command) :
    runAll outside (d.seen see) cs = ((runAll whole d cs).1.seen see, (runAll whole d cs).2) := by
  have run_seen (d : Desk M Whole) (c : M.Command) :
      (d.seen see).run outside c = ((d.run whole c).1.seen see, (d.run whole c).2) :=
    settle_seen extends' _ { d with state := (M.start d.state c).1 } (M.start d.state c).2
  induction cs generalizing d with
  | nil => rfl
  | cons c rest ih =>
    simp only [runAll, run_seen]
    split
    · rfl
    · rw [ih]

end Seen

end TableView.Task.Desk
