import TableView.Proofs.Editor.Selection

/-!
# The order in which fetches end

Several fetches may be under way at once, and each of them ends in its own time. When all have
ended, the session is settled by the outcome of one that is current, whichever came last, or it is
what it was if none is (`Completes.state`). Every current fetch may be the last one
(`exists_completes_last`). So the order makes no difference exactly if any two current fetches have
the same effect (`completes_sameView_iff`), as they have if the source answers record by record. It
makes a difference if a fetch for more names than the query has tokens now fails for one that it
has no more, and a fetch for the others does not (`exists_completes_failed_and_resolved`).
-/

namespace TableView.Editor

open TableView.Task (Event Progress.waiting Run Scene Step mem_of_mem_beside)

/-- How fetches end, as a function of the object, the record and the names. -/
abbrev Outcome : Type := Option String → String → List String → Except Failure (Entries Value)

variable (outcome : Outcome)

/-- How the fetch of a ticket ends. -/
def Outcome.of (t : Ticket) : Except Failure (Entries Value) :=
  outcome t.object t.record t.names

/-- A fetch ends. -/
def Ends (e : Event machine) : Prop :=
  ∃ t, e = .resumed (Suspension.values t) (outcome.of t)

/-- Some of the fetches that are under way end, one after another, and nothing else happens. -/
def Ended (x y : Scene machine) : Prop :=
  ∃ es, Run x es y ∧ ∀ e ∈ es, Ends outcome e

/-- All fetches that are under way end, in some order, and nothing else happens. -/
def Completes (x y : Scene machine) : Prop :=
  Ended outcome x y ∧ ∀ t, .values t ∉ y.waiting

/-- The session after the fetch of one ticket has ended. -/
def Session.settled (s : Session) (t : Ticket) : Session :=
  s.withResolution (s.resolution.settle t (outcome.of t))

variable {outcome}

private theorem settled_of_stale (s : Session) (t : Ticket) (h : s.resolution.isCurrent t = false) :
    s.settled outcome t = s := by
  rw [Session.settled, Resolution.settle_of_stale _ t _ h]
  rfl

private theorem settled_settled (s : Session) (t u : Ticket) (ht : s.resolution.isCurrent t = true)
    (hu : s.resolution.isCurrent u = true) :
    (s.settled outcome t).settled outcome u = s.settled outcome u := by
  have h := Resolution.settle_settle s.resolution t u (outcome.of t) (outcome.of u) ht hu
  exact congrArg s.withResolution h

private theorem settled_current (s : Session) (t u : Ticket) :
    (s.settled outcome t).resolution.isCurrent u = s.resolution.isCurrent u :=
  Resolution.isCurrent_settle _ t u _

/-! ### One fetch ends -/

private theorem resume_values (s : Session) (before after : List Suspension) (t : Ticket) :
    (⟨(s.resumeValues t (outcome.of t)).1,
        before ++ (s.resumeValues t (outcome.of t)).2.waiting ++ after⟩ : Scene machine) =
      ⟨s.settled outcome t, before ++ after⟩ := by
  rw [s.resumeValues_state t (outcome.of t)]
  have nothing : before ++ [] ++ after = before ++ after := by rw [List.append_nil]
  exact congrArg (fun w : List Suspension ↦ (⟨s.settled outcome t, w⟩ : Scene machine)) nothing

namespace Ended

variable {x y z : Scene machine}

theorem refl (x : Scene machine) : Ended outcome x x := ⟨[], .nil, by simp⟩

theorem trans (first : Ended outcome x y) (second : Ended outcome y z) : Ended outcome x z := by
  obtain ⟨es, run, ends⟩ := first
  obtain ⟨fs, run', ends'⟩ := second
  refine ⟨es ++ fs, run.append run', fun e he ↦ ?_⟩
  exact (List.mem_append.mp he).elim (ends e) (ends' e)

/-- The fetch of a ticket may end wherever its operation stands among the suspended ones. -/
theorem values (s : Session) (before after : List Suspension) (t : Ticket) :
    Ended outcome ⟨s, before ++ .values t :: after⟩ ⟨s.settled outcome t, before ++ after⟩ := by
  refine ⟨[.resumed (Suspension.values t) (outcome.of t)], .single ?_, fun e he ↦ ?_⟩
  · rw [← resume_values]
    exact Step.resume (M := machine) s before after (.values t) (outcome.of t)
  · exact ⟨t, List.mem_singleton.mp he⟩

end Ended

private theorem eq_of_step_values {x y : Scene machine} {t : Ticket}
    (step : Step x (.resumed (Suspension.values t) (outcome.of t)) y) :
    ∃ before after, x.waiting = before ++ .values t :: after ∧
      y = ⟨x.state.settled outcome t, before ++ after⟩ := by
  cases step with
  | resume s before after => exact ⟨before, after, rfl, resume_values s before after t⟩

/-! ### What a completion leaves -/

/-- Either nothing has changed and every current fetch goes on, or a current one has settled the
session. -/
private structure Ending (outcome : Outcome) (x y : Scene machine) : Prop where
  waiting : ∀ t, .values t ∈ y.waiting → .values t ∈ x.waiting
  state : (y.state = x.state ∧ ∀ t, .values t ∈ x.waiting →
      x.state.resolution.isCurrent t = true → .values t ∈ y.waiting) ∨
    ∃ t, .values t ∈ x.waiting ∧ x.state.resolution.isCurrent t = true ∧
      y.state = x.state.settled outcome t

private theorem ending_step {x y z : Scene machine} {t : Ticket} (h : Ending outcome x y)
    (step : Step y (.resumed (Suspension.values t) (outcome.of t)) z) : Ending outcome x z := by
  obtain ⟨before, after, hy, rfl⟩ := eq_of_step_values step
  have hm : .values t ∈ y.waiting := by
    rw [hy]
    exact List.mem_append_right _ List.mem_cons_self
  refine ⟨fun u hu ↦ h.waiting u ?_, ?_⟩
  · rw [hy]
    exact List.mem_append.mpr ((List.mem_append.mp hu).imp_right (List.mem_cons_of_mem _))
  · rcases h.state with ⟨hs, stay⟩ | ⟨u, hu, hcu, hs⟩
    · cases hc : x.state.resolution.isCurrent t with
      | true => exact .inr ⟨t, h.waiting t hm, hc, congrArg (Session.settled outcome · t) hs⟩
      | false =>
        refine .inl ⟨?_, fun u hu hcu ↦ ?_⟩
        · rw [hs]
          exact settled_of_stale x.state t hc
        · have hw : .values u ∈ before ++ .values t :: after := hy ▸ stay u hu hcu
          have beside := mem_of_mem_beside [] hw ?_
          · rwa [List.append_nil] at beside
          · rintro ⟨⟩
            rw [hcu] at hc
            cases hc
    · cases hc : x.state.resolution.isCurrent t with
      | true =>
        refine .inr ⟨t, h.waiting t hm, hc, ?_⟩
        rw [hs]
        exact settled_settled x.state u t hcu hc
      | false =>
        refine .inr ⟨u, hu, hcu, ?_⟩
        rw [hs]
        exact settled_of_stale _ t ((settled_current x.state u t).trans hc)

private theorem ending_of_ended {x y : Scene machine} (h : Ended outcome x y) :
    Ending outcome x y := by
  obtain ⟨es, run, ends⟩ := h
  refine run.invariant (I := fun _ y ↦ Ending outcome x y) ends ?_ ?_
  · exact ⟨fun _ ht ↦ ht, .inl ⟨rfl, fun _ ht _ ↦ ht⟩⟩
  · rintro es y e z h ⟨t, rfl⟩ step
    exact ending_step h step

/-- What a completion leaves: the session as it was if no fetch was current, or else settled by the
outcome of a current one. -/
theorem Completes.state {x y : Scene machine} (h : Completes outcome x y) :
    (y.state = x.state ∧
        ∀ t, .values t ∈ x.waiting → x.state.resolution.isCurrent t = false) ∨
      ∃ t, .values t ∈ x.waiting ∧ x.state.resolution.isCurrent t = true ∧
        y.state = x.state.settled outcome t := by
  rcases (ending_of_ended h.1).state with ⟨hs, stay⟩ | settled
  · refine .inl ⟨hs, fun t ht ↦ Bool.eq_false_iff.mpr fun hc ↦ ?_⟩
    exact h.2 t (stay t ht hc)
  · exact .inr settled

/-! ### Every fetch may be the last -/

/-- Whether an operation waits for values. -/
def Suspension.isFetch : Suspension → Bool
  | .values _ => true
  | _ => false

/-- The operations that wait for something else than values. -/
private def others (w : List Suspension) : List Suspension := w.filter (!·.isFetch)

private theorem not_mem_others (w : List Suspension) (t : Ticket) : .values t ∉ others w := by
  intro h
  cases (List.mem_filter.mp h).2

private theorem others_cons (p : Suspension) (w : List Suspension) :
    (∃ t, p = .values t ∧ others (p :: w) = others w) ∨ others (p :: w) = p :: others w := by
  cases p with
  | values t => exact .inl ⟨t, rfl, rfl⟩
  | _ => exact .inr rfl

variable (outcome)

/-- The fetches of some neighbouring operations may end one after another. -/
private theorem exists_ended_others (s : Session) (before these after : List Suspension) :
    ∃ s' : Session,
      Ended outcome ⟨s, before ++ these ++ after⟩ ⟨s', before ++ others these ++ after⟩ := by
  induction these generalizing s before with
  | nil => exact ⟨s, .refl _⟩
  | cons p rest ih =>
    rcases others_cons p rest with ⟨t, rfl, ho⟩ | ho
    · obtain ⟨s', ended⟩ := ih (s.settled outcome t) before
      have first : Ended outcome _ _ := .values s before (rest ++ after) t
      rw [← List.append_assoc] at first
      refine ⟨s', ?_⟩
      rw [ho, List.append_assoc before, List.cons_append]
      exact first.trans ended
    · obtain ⟨s', ended⟩ := ih s (before ++ [p])
      refine ⟨s', ?_⟩
      rw [ho]
      simpa only [List.append_assoc, List.cons_append, List.nil_append] using ended

/-- Of the fetches that are current, each may be the last to end. -/
theorem exists_completes_last (x : Scene machine) (t : Ticket) (ht : .values t ∈ x.waiting)
    (hc : x.state.resolution.isCurrent t = true) :
    ∃ y, Completes outcome x y ∧ y.state = x.state.settled outcome t := by
  rcases x with ⟨s, waiting⟩
  obtain ⟨before, after, rfl⟩ : ∃ before after : List Suspension,
      waiting = before ++ .values t :: after := List.append_of_mem ht
  obtain ⟨s₁, first⟩ :=
    exists_ended_others outcome s [] before (.values t :: after)
  obtain ⟨s₂, second⟩ :=
    exists_ended_others outcome s₁ (others before ++ [.values t]) after []
  simp only [List.nil_append, List.append_nil, List.append_assoc, List.cons_append] at first second
  have all : Ended outcome _ ⟨s₂, others before ++ .values t :: others after⟩ := first.trans second
  have last : Ended outcome _ _ := .values s₂ (others before) (others after) t
  refine ⟨_, ⟨all.trans last, fun u hu ↦ ?_⟩, ?_⟩
  · rcases List.mem_append.mp hu with hb | ha
    · exact not_mem_others _ u hb
    · exact not_mem_others _ u ha
  · rcases (ending_of_ended all).state with ⟨hs, -⟩ | ⟨u, -, hu, hs⟩
    · exact congrArg (Session.settled outcome · t) hs
    · exact (congrArg (Session.settled outcome · t) hs).trans (settled_settled s u t hu hc)

/-! ### Orders -/

variable {outcome}

/-- The same readiness of the merge tokens, and the same preview. -/
def Session.SameView (s s' : Session) : Prop :=
  s.resolution.readiness = s'.resolution.readiness ∧ s.preview = s'.preview

/-- Whether a fetch fails depends on the object and the record alone, and so does the value of a
field, whatever else is asked for. -/
def Outcome.RecordWise (outcome : Outcome) : Prop :=
  ∀ object record asked others names, (∀ name ∈ names, name ∈ asked ∧ name ∈ others) →
    Resolution.Agree names (outcome object record asked) (outcome object record others)

private theorem sameView_of_agree (s : Session) (t u : Ticket)
    (ht : s.resolution.isCurrent t = true) (hu : s.resolution.isCurrent u = true)
    (agree : Resolution.Agree s.resolution.tokens (outcome.of t) (outcome.of u)) :
    (s.settled outcome t).SameView (s.settled outcome u) := by
  have readiness : (s.settled outcome t).resolution.readiness =
      (s.settled outcome u).resolution.readiness :=
    Resolution.readiness_settle_eq _ t u _ _ ht hu agree
  refine ⟨readiness, ?_⟩
  unfold Session.preview
  rw [readiness]
  have tokens (v : Ticket) : (s.settled outcome v).resolution.tokens = s.resolution.tokens :=
    Resolution.settle_tokens _ v _
  have record (v : Ticket) : (s.settled outcome v).resolution.record = s.resolution.record :=
    Resolution.settle_record _ v _
  rw [tokens, tokens, record, record]
  exact congrArg (Except.map · s.query) (funext fun query ↦
    Merge.preview_congr query _ _ _ _ fun name hn ↦
      Resolution.values_settle_eq _ t u _ _ ht hu agree name hn)

private theorem agree_of_recordWise (r : Resolution) (t u : Ticket) (ht : r.isCurrent t = true)
    (hu : r.isCurrent u = true) (h : outcome.RecordWise) :
    Resolution.Agree r.tokens (outcome.of t) (outcome.of u) := by
  obtain ⟨hto, htr, htn⟩ := (Resolution.isCurrent_iff r t).mp ht
  obtain ⟨huo, hur, hun⟩ := (Resolution.isCurrent_iff r u).mp hu
  have object : u.object = t.object := huo.trans hto.symm
  have record : u.record = t.record := Option.some.inj (hur.symm.trans htr)
  have agree := h t.object t.record t.names u.names r.tokens
    fun name hn ↦ ⟨htn name hn, hun name hn⟩
  unfold Outcome.of
  rwa [object, record]

/-- Any two current fetches that are under way would show the same, each of them alone. -/
def Alike (outcome : Outcome) (x : Scene machine) : Prop :=
  ∀ t u, .values t ∈ x.waiting → .values u ∈ x.waiting →
    x.state.resolution.isCurrent t = true → x.state.resolution.isCurrent u = true →
      (x.state.settled outcome t).SameView (x.state.settled outcome u)

private theorem alike_of_recordWise (x : Scene machine) (h : outcome.RecordWise) :
    Alike outcome x := by
  intro t u _ _ ht hu
  exact sameView_of_agree x.state t u ht hu (agree_of_recordWise _ t u ht hu h)

private theorem Alike.sameView {x y z : Scene machine} (alike : Alike outcome x)
    (hy : Completes outcome x y) (hz : Completes outcome x z) : y.state.SameView z.state := by
  rcases hy.state with ⟨hys, stale⟩ | ⟨t, ht, hct, hys⟩
  · rcases hz.state with ⟨hzs, -⟩ | ⟨u, hu, hcu, -⟩
    · rw [hys, hzs]
      exact ⟨rfl, rfl⟩
    · cases hcu.symm.trans (stale u hu)
  · rcases hz.state with ⟨-, stale⟩ | ⟨u, hu, hcu, hzs⟩
    · cases hct.symm.trans (stale t ht)
    · rw [hys, hzs]
      exact alike t u ht hu hct hcu

/-- All orders in which the fetches can end show the same exactly if any two current fetches would
show the same alone. They do if the source answers record by record. -/
theorem completes_sameView_iff (outcome : Outcome) (x : Scene machine) :
    ((∀ y z, Completes outcome x y → Completes outcome x z → y.state.SameView z.state) ↔
        Alike outcome x) ∧
      (outcome.RecordWise →
        ∀ y z, Completes outcome x y → Completes outcome x z → y.state.SameView z.state) := by
  refine ⟨⟨?_, fun alike y z hy hz ↦ alike.sameView hy hz⟩, fun recordWise y z hy hz ↦ ?_⟩
  · intro same t u ht hu hct hcu
    obtain ⟨y, hy, hys⟩ := exists_completes_last outcome x t ht hct
    obtain ⟨z, hz, hzs⟩ := exists_completes_last outcome x u hu hcu
    rw [← hys, ← hzs]
    exact same y z hy hz
  · exact (alike_of_recordWise x recordWise).sameView hy hz

/-- The scene after a draft whose filter has an unknown name was corrected while its values were
being fetched. -/
def correctedScene : Scene machine :=
  ((contactScene "WHERE Name = $record.Name AND Id = $record.Typo").start .ensureValues).start
    (.setFilter (some "WHERE Name = $record.Name"))

/-- A source in which the value of a field names its record. -/
def echoOutcome : Outcome := fun _ record names ↦
  .ok (Entries.ofList (names.map fun name ↦ (name, .text (record ++ "." ++ name))))

private theorem echoOutcome_recordWise : echoOutcome.RecordWise := by
  intro object record asked others names all name hn
  rw [Entries.get?_ofList_map, Entries.get?_ofList_map, if_pos (all name hn).1,
    if_pos (all name hn).2]

theorem correctedScene_sameView : echoOutcome.RecordWise ∧
    ∀ y z, Completes echoOutcome correctedScene y → Completes echoOutcome correctedScene z →
      y.state.SameView z.state :=
  ⟨echoOutcome_recordWise,
    (completes_sameView_iff echoOutcome correctedScene).2 echoOutcome_recordWise⟩

/-- A source that does not know one of the names, and fails whenever it is asked for. -/
def typoOutcome : Outcome := fun _ _ names ↦
  if "Typo" ∈ names then .error (.engine (.unknownFields "Account" ["Typo"]))
  else .ok [("Name", .text "Acme")]

/-- With two current fetches, one that fails and one that does not, the last one decides. -/
theorem exists_completes_failed_and_resolved :
    ∃ (es : List (Event machine)) (x y z : Scene machine),
      Run (opening none) es x ∧ Completes typoOutcome x y ∧ Completes typoOutcome x z ∧
        y.state.resolution.readiness = .failed ∧ z.state.resolution.readiness = .resolved := by
  let wide : Ticket := ⟨some "Account", "001A", ["Name", "Typo"]⟩
  let narrow : Ticket := ⟨some "Account", "001A", ["Name"]⟩
  let s : Session := correctedScene.state
  have run : Run (opening none) _ correctedScene := ((run_contactScene _).start _).start _
  have waiting : correctedScene = ⟨s, [.values wide, .values narrow]⟩ := rfl
  have wideLast : Ended typoOutcome correctedScene
      ⟨(s.settled typoOutcome narrow).settled typoOutcome wide, []⟩ := by
    rw [waiting]
    exact (Ended.values s [.values wide] [] narrow).trans (.values _ [] [] wide)
  have narrowLast : Ended typoOutcome correctedScene
      ⟨(s.settled typoOutcome wide).settled typoOutcome narrow, []⟩ := by
    rw [waiting]
    exact (Ended.values s [] [.values narrow] wide).trans (.values _ [] [] narrow)
  refine ⟨_, correctedScene, _, _, run, ⟨wideLast, ?_⟩, ⟨narrowLast, ?_⟩, rfl, rfl⟩
  · exact fun t ht ↦ List.not_mem_nil ht
  · exact fun t ht ↦ List.not_mem_nil ht

end TableView.Editor
