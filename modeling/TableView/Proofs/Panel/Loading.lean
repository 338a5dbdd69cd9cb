import TableView.Proofs.Panel.Failure
import TableView.Proofs.Panel.Latest

/-!
# The marker of loading

A panel is marked as loading while a rendering waits for an answer. A rendering sets the marker
before each of its calls (`State.loading_of_resume`, `State.loading_of_start`) and takes it away
when the answer comes, whether it is still the latest one or not. So an answer to a rendering that
was overtaken takes away the marker of the latest one, which waits on without it
(`loading_iff_undisturbed`), until the next answer to the latest one itself.
-/

namespace TableView.Panel

open TableView.Task (Act Roster)
open TableView.Task.Roster (Run Step)

namespace State

variable {s : State}

/-! ### Calls under way -/

/-- If there is one more call to be answered, the panel is marked as loading. -/
private def Marks (r : State × Progress) : Prop := ∀ q, r.2 = .pending q → r.1.loading = true

private theorem marks_finished (t : State) (r : Except Failure Rendered) : Marks (t, .finished r) :=
  fun _ h ↦ nomatch h

private theorem marks_execute (g : Nat) (query : String) (sort : Option (String × Direction)) :
    Marks (s.execute g query sort) := fun _ _ ↦ rfl

private theorem marks_fetch (g : Nat) (c : Config) (query : String) (r : Resolution)
    (page : Page) : Marks (s.fetch g c query r page) := by
  unfold fetch
  split
  · dsimp only
    split
    · exact marks_finished _ _
    · exact fun _ _ ↦ rfl
  · exact marks_finished _ _

private theorem marks_renderLoaded (g : Nat) (c : Config) (page : Page) :
    Marks (s.renderLoaded g c page) := by
  unfold renderLoaded
  dsimp only
  split
  · exact marks_finished _ _
  · split
    · exact marks_finished _ _
    · split
      · exact marks_execute g _ _
      · exact marks_fetch g c _ _ page

private theorem marks_resumeConfig (g : Nat) (page : Page) (reply : Except Failure Config) :
    Marks (s.resumeConfig g page reply) := by
  cases reply with
  | error f =>
    cases f with
    | engine e => exact marks_finished _ _
    | _ => exact marks_finished _ _
  | ok c =>
    simp only [resumeConfig]
    split
    · exact marks_renderLoaded g c page
    · exact marks_finished _ _

private theorem marks_resumeValues (g : Nat) (c : Config) (query : String) (r : Resolution)
    (ticket : Ticket) (page : Page) (reply : Except Failure (Entries Value)) :
    Marks (s.resumeValues g c query r ticket page reply) := by
  cases reply with
  | error f => exact marks_finished _ _
  | ok values =>
    simp only [resumeValues]
    split
    · exact marks_execute g _ _
    · exact marks_finished _ _

private theorem marks_resumeExecution (g : Nat) (query : String)
    (sort : Option (String × Direction)) (reply : Except Failure QueryResult) :
    Marks (s.resumeExecution g query sort reply) := by
  cases reply with
  | error f =>
    cases f with
    | engine e =>
      simp only [resumeExecution]
      split
      · exact marks_finished _ _
      · exact marks_finished _ _
    | _ => exact marks_finished _ _
  | ok result => exact marks_finished _ _

/-- A rendering that makes another call after an answer marks the panel again. -/
theorem loading_of_resume (p : Suspension) (reply : p.call.Reply) {q : Suspension}
    (waits : (s.resume p reply).2 = .pending q) : (s.resume p reply).1.loading = true := by
  cases p with
  | config g name page => exact marks_resumeConfig g page reply q waits
  | values g c query r ticket page =>
    exact marks_resumeValues g c query r ticket page reply q waits
  | execution g query sort => exact marks_resumeExecution g query sort reply q waits

/-- A rendering that makes a call when it is started marks the panel. -/
theorem loading_of_start (c : Command) {q : Suspension}
    (waits : (s.start c).2 = .pending q) : (s.start c).1.loading = true := by
  cases c with
  | renderConfig name page =>
    simp only [start] at waits ⊢
    split at waits
    · cases waits
    · rfl
  | renderQuery query labels => rfl
  | sort field direction =>
    simp only [start] at waits
    split at waits
    · cases waits
    · cases waits

/-- Sorting leaves the marker as it is. -/
theorem loading_start {c : Command} (h : ¬ c.Renders) : (s.start c).1.loading = s.loading := by
  cases c with
  | renderConfig name page => exact absurd trivial h
  | renderQuery query labels => exact absurd trivial h
  | sort field direction =>
    simp only [start]
    split
    · rfl
    · rfl

end State

/-! ### The latest rendering and the marker -/

variable {x x₀ x₁ y z : Roster machine} {a : Act machine} {as : List (Act machine)} {k : Nat}

/-- The number of the operation that an act answers, if it is an answer. -/
def answered? : Act machine → Option Nat
  | .started _ => none
  | .answered j _ _ => some j

/-- If any operation was answered, the last answer was to the operation of the number. -/
def Undisturbed (k : Nat) (as : List (Act machine)) : Prop :=
  ∀ j ∈ (as.filterMap answered?).getLast?, j = k

private theorem undisturbed_started (c : Command) :
    Undisturbed k (as ++ [.started c]) ↔ Undisturbed k as := by
  rw [Undisturbed, List.filterMap_append]
  exact iff_of_eq (congrArg (fun js ↦ ∀ j ∈ js.getLast?, j = k) (List.append_nil _))

private theorem undisturbed_answered (j : Nat) (call : Call) (reply : call.Reply) :
    Undisturbed k (as ++ [.answered j call reply]) ↔ j = k := by
  rw [Undisturbed, List.filterMap_append]
  change (∀ i ∈ (as.filterMap answered? ++ [j]).getLast?, i = k) ↔ j = k
  rw [List.getLast?_concat]
  exact ⟨fun h ↦ h j rfl, fun same i last ↦ Option.some.inj last ▸ same⟩

/-- The answer to any other rendering takes the marker away. -/
theorem loading_of_stale_answer {j : Nat} {call : Call} {reply : call.Reply}
    (latest : IsLatest k y) (step : Step y (.answered j call reply) z) (other : j ≠ k) :
    z.state.loading = false := by
  cases step with
  | answer s stages _ p hp reply =>
    have stale : s.generation ≠ p.generation := fun same ↦ other ((latest j p hp).mp same.symm)
    obtain ⟨r, ended⟩ := State.resume_of_stale p reply stale
    change (State.resume s p reply).1.loading = false
    rw [ended]

/-- While the rendering of a number waits, the panel is marked exactly if no other rendering was
answered since its own last answer. -/
private def Marked (k : Nat) (as : List (Act machine)) (y : Roster machine) : Prop :=
  ∀ p, y.stages[k]? = some (.pending p) → (y.state.loading = true ↔ Undisturbed k as)

private theorem marked_first {c : Command} (first : Step x₀ (.started c) x₁) :
    Marked x₀.stages.length [] x₁ := by
  cases first with
  | start s stages =>
    intro p h
    rw [List.getElem?_concat_length] at h
    exact iff_of_true (State.loading_of_start c (Option.some.inj h)) fun j none ↦ nomatch none

private theorem marked_step (latest : IsLatest k x) (marked : Marked k as x) (step : Step x a y)
    (none : ¬ StartsRendering a) : Marked k (as ++ [a]) y := by
  intro p h
  cases step with
  | start s stages c =>
    have ends := State.ends_start (s := s) (c := c) none
    refine Iff.trans ?_ (undisturbed_started c).symm
    have same := State.loading_start (s := s) (c := c) none
    change (State.start s c).1.loading = true ↔ Undisturbed k as
    rw [same]
    rcases Roster.stage_start h with ⟨old, -⟩ | ⟨-, stage⟩
    · exact marked p old
    · exact absurd stage (ends.ended p)
  | answer s stages j q hq reply =>
    refine Iff.trans ?_ (undisturbed_answered j (machine.call q) reply).symm
    rcases Roster.stage_answer h with ⟨rfl, stage⟩ | ⟨other, -⟩
    · exact iff_of_true (State.loading_of_resume q reply stage) rfl
    · have stale : Step ⟨s, stages⟩ (.answered j (machine.call q) reply) _ :=
        .answer s stages j q hq reply
      have taken := loading_of_stale_answer latest stale (Ne.symm other)
      exact iff_of_false (fun marked ↦ Bool.false_ne_true (taken.symm.trans marked))
        (Ne.symm other)

/-- Whenever the latest rendering waits for an answer, the panel is marked as loading exactly if the
last answer to any rendering since its start, if there was one, was its own. Every answer to another
rendering takes the marker away. -/
theorem loading_iff_undisturbed {s : State} {c : Command} {history : List (Act machine)}
    (before : Run (.new s) history x₀) (renders : c.Renders) (first : Step x₀ (.started c) x₁)
    (run : Run x₁ as y) (last : ∀ a ∈ as, ¬ StartsRendering a) :
    (∀ p, y.stages[x₀.stages.length]? = some (.pending p) →
      (y.state.loading = true ↔ Undisturbed x₀.stages.length as)) ∧
    ∀ (j : Nat) (call : Call) (reply : call.Reply) (z : Roster machine),
      Step y (.answered j call reply) z → j ≠ x₀.stages.length → z.state.loading = false := by
  let k := x₀.stages.length
  let I : List (Act machine) → Roster machine → Prop := fun as y ↦ IsLatest k y ∧ Marked k as y
  have latest : IsLatest k x₁ :=
    isLatest_of_run before renders first .nil fun _ h ↦ nomatch h
  have both : I as y := by
    refine run.invariant (I := I) last ⟨latest, marked_first first⟩ ?_
    rintro as y a z ⟨latest, marked⟩ none step
    exact ⟨isLatest_step latest step none, marked_step latest marked step none⟩
  exact ⟨both.2, fun j call reply z step other ↦ loading_of_stale_answer both.1 step other⟩

/-- The panel while a query is being run and a configuration is being loaded. -/
def overtakingPanel : Roster machine :=
  busyPanel.start (Command.renderConfig (some "Contacts") recordPage)

/-- The panel after the query, which was overtaken, has been run. -/
def unmarkedPanel : Roster machine :=
  overtakingPanel.answer 0 (.execution 1 "SELECT Id" none) (.ok (single "Globex"))

/-- The panel after the configuration has come, which asks for the values of a record. -/
def markedPanel : Roster machine :=
  unmarkedPanel.answer 1 (.config 2 "Contacts" recordPage) (.ok recordConfig)

private theorem waits_unmarkedPanel :
    unmarkedPanel.stages[1]? = some (.pending (.config 2 "Contacts" recordPage)) := rfl

/-- The marker is taken away by the answer to the query, and set again when the configuration has
come. -/
theorem loading_of_markedPanel :
    (∃ p, markedPanel.stages[1]? = some (.pending p)) ∧ markedPanel.state.loading = true ∧
      unmarkedPanel.state.loading = false := by
  have opened : Run newPanel [] newPanel := .nil
  have renders : (Command.renderConfig (some "Contacts") recordPage).Renders := trivial
  have before := opened.start (Command.renderQuery "SELECT Id" none)
  have first : Step busyPanel (.started (Command.renderConfig (some "Contacts") recordPage))
      overtakingPanel := busyPanel.step_start _
  have started : Run overtakingPanel [] overtakingPanel := .nil
  have late := overtakingPanel.step_answer 0 (.execution 1 "SELECT Id" none) rfl
    (.ok (single "Globex"))
  have answered := (started.answer 0 (.execution 1 "SELECT Id" none) rfl
    (.ok (single "Globex"))).answer 1 (.config 2 "Contacts" recordPage) waits_unmarkedPanel
    (.ok recordConfig)
  obtain ⟨-, taken⟩ := loading_iff_undisturbed before renders first started fun _ h ↦ nomatch h
  obtain ⟨marked, -⟩ := loading_iff_undisturbed before renders first answered fun a mem ↦ by
    rcases List.mem_cons.mp mem with rfl | mem
    · exact id
    · rw [List.mem_singleton.mp mem]
      exact id
  have own : Undisturbed 1 [.answered 0 (Call.execute "SELECT Id") (.ok (single "Globex")),
      .answered 1 (Call.config "Contacts") (.ok recordConfig)] := by
    rintro j ⟨⟩
    rfl
  exact ⟨⟨_, rfl⟩, (marked _ rfl).mpr own, taken 0 _ _ _ late Nat.zero_ne_one⟩

/-- The latest rendering waits for its configuration on a panel that is not marked as loading. -/
theorem exists_latest_waiting_unmarked :
    ∃ (c c' : Command) (call : Call) (reply : call.Reply) (y : Roster machine) (p : Suspension),
      c.Renders ∧ c'.Renders ∧
        Run newPanel [.started c, .started c', .answered 0 call reply] y ∧
        y.stages[1]? = some (.pending p) ∧ y.state.loading = false := by
  have opened : Run newPanel [] newPanel := .nil
  have run := ((opened.start (Command.renderQuery "SELECT Id" none)).start
    (Command.renderConfig (some "Contacts") recordPage)).answer 0 (.execution 1 "SELECT Id" none)
    rfl (.ok (single "Globex"))
  exact ⟨Command.renderQuery "SELECT Id" none, Command.renderConfig (some "Contacts") recordPage,
    Call.execute "SELECT Id", _, unmarkedPanel, _, trivial, trivial, run, waits_unmarkedPanel, rfl⟩

end TableView.Panel
