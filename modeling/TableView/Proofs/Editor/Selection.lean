import TableView.Proofs.Editor.Effect

/-!
# Values belong to the selected record

A source of context records that always says the same of a field of a record. Whatever operations
a session runs, and in whatever order their replies come, the values that it holds are those of
the object and the record that are selected now, and an error stands there only in their place
(`values_of_selected_record`). A reply is held back by its ticket: it is taken over only for the
object and the record that it was asked for.
-/

namespace TableView.Editor

open TableView.Task (Event Run Scene)

/-- What can be looked up of the fields of records: a value, that there is none, or a failure. -/
structure ContextSource where
  look : Option String → String → String → Except Failure (Option Value)

namespace ContextSource

variable (source : ContextSource)

/-- Whether a fetch may end in this way: with the value of every name, or with the failure of one
of the names. -/
def MayReply (object : Option String) (record : String) (names : List String) :
    Except Failure (Entries Value) → Prop
  | .ok values => ∀ name ∈ names, source.look object record name = .ok (values.get? name)
  | .error f => ∃ name ∈ names, source.look object record name = .error f

/-- Whether fetches are answered from the source. All other calls may be answered at will. -/
def Answers : (c : Call) → c.Reply → Prop
  | .values object record names, reply => source.MayReply object record names reply
  | _, _ => True

/-- Whether a resolution holds values only of its selected record, and no error beside them. -/
structure Explains (r : Resolution) : Prop where
  values_error : r.values ≠ [] → r.Selected ∧ r.error = none
  error_values : r.error ≠ none → r.Selected ∧ r.values = []
  values_look : ∀ record name v, r.record = some record → r.values.get? name = some v →
    ∃ found, source.look r.object record name = .ok found ∧ v = found.getD .null

private theorem explains_of_blank (r : Resolution) (h : r.Blank) : source.Explains r where
  values_error hv := absurd h.1 hv
  error_values he := absurd h.2 he
  values_look record name v _ hv := by
    rw [h.1] at hv
    cases hv

/-- The outcome of a fetch is taken over only for the record that it was asked for. -/
private theorem explains_settle (r : Resolution) (t : Ticket)
    (reply : Except Failure (Entries Value)) (h : source.Explains r) (hr : r.record ≠ some "")
    (answer : source.MayReply t.object t.record t.names reply) :
    source.Explains (r.settle t reply) := by
  by_cases hc : r.isCurrent t = true
  · obtain ⟨ho, ht, -⟩ := (Resolution.isCurrent_iff r t).mp hc
    have selected : r.Selected := by
      refine ⟨t.record, (Resolution.given_eq_some_iff _ _).mpr ⟨ht, fun he ↦ hr ?_⟩⟩
      rw [ht, he]
    rw [Resolution.settle_of_current r t reply hc]
    cases reply with
    | error f =>
      exact ⟨fun hv ↦ absurd rfl hv, fun _ ↦ ⟨selected, rfl⟩, fun _ _ _ _ hv ↦ nomatch hv⟩
    | ok values =>
      refine ⟨fun _ ↦ ⟨selected, rfl⟩, fun he ↦ absurd rfl he, ?_⟩
      intro record name v hrec hv
      have hrecord : record = t.record := Option.some.inj (hrec.symm.trans ht)
      obtain ⟨hn, rfl⟩ := (Resolution.get?_outcomeValues t values name v).mp hv
      refine ⟨values.get? name, ?_, rfl⟩
      rw [hrecord]
      change source.look r.object t.record name = .ok (values.get? name)
      rw [← ho]
      exact answer name hn
  · rw [Resolution.settle_of_stale r t reply (Bool.eq_false_iff.mpr hc)]
    exact h

/-- A selected record's failed fetch may be forgotten for a new one. -/
private theorem explains_begun (r : Resolution) (h : source.Explains r) :
    source.Explains { r with error := none } where
  values_error hv := ⟨(h.values_error hv).1, rfl⟩
  error_values he := absurd rfl he
  values_look := h.values_look

private theorem explains_effect {s s' : Session} {w : List Suspension} (h : Effect s s' w)
    (hs : source.Explains s.resolution) : source.Explains s'.resolution :=
  h.keeps hs source.explains_of_blank
    (fun _ _ hr ↦ ⟨hr.values_error, hr.error_values, hr.values_look⟩)
    (fun r _ hr ↦ source.explains_begun r hr)

private theorem explains_start (s : Session) (c : Command) (hs : source.Explains s.resolution)
    (hr : s.resolution.record ≠ some "") :
    source.Explains (s.start c).1.resolution ∧ (s.start c).1.resolution.record ≠ some "" := by
  by_cases hc : ∃ config, c = .applyDraft config
  · obtain ⟨config, rfl⟩ := hc
    obtain ⟨renewed, -⟩ := s.applyDraft_renewed config
    exact ⟨source.explains_of_blank _ renewed.blank, renewed.record⟩
  · have effect := s.start_effect c fun config he ↦ hc ⟨config, he⟩
    exact ⟨source.explains_effect effect hs, effect.record_ne_empty hr⟩

private theorem explains_values (s : Session) (t : Ticket)
    (reply : Except Failure (Entries Value)) (hs : source.Explains s.resolution)
    (hr : s.resolution.record ≠ some "")
    (answer : source.MayReply t.object t.record t.names reply) :
    source.Explains (s.resumeValues t reply).1.resolution ∧
      (s.resumeValues t reply).1.resolution.record ≠ some "" := by
  have he : (s.resumeValues t reply).1.resolution = s.resolution.settle t reply := by
    rw [s.resumeValues_state t reply]
    rfl
  rw [he, Resolution.settle_record]
  exact ⟨source.explains_settle _ t reply hs hr answer, hr⟩

private theorem explains_resume (s : Session) (p : Suspension) (reply : p.call.Reply)
    (hs : source.Explains s.resolution) (hr : s.resolution.record ≠ some "")
    (answer : source.Answers p.call reply) :
    source.Explains (s.resume p reply).1.resolution ∧
      (s.resume p reply).1.resolution.record ≠ some "" := by
  by_cases hp : ∃ t, p = .values t
  · obtain ⟨t, rfl⟩ := hp
    exact source.explains_values s t reply hs hr answer
  · have effect := s.resume_effect p reply fun t he ↦ hp ⟨t, he⟩
    exact ⟨source.explains_effect effect hs, effect.record_ne_empty hr⟩

/-- In every run in which fetches are answered from one source, the values at hand are the source's
values of the selected record, and an error stands beside no values. -/
theorem values_of_selected_record (viewer : Option String) {es : List (Event machine)}
    {x : Scene machine} (run : Run (opening viewer) es x)
    (answered : ∀ e ∈ es, e.Obeys source.Answers) : source.Explains x.state.resolution := by
  have kept : source.Explains x.state.resolution ∧ x.state.resolution.record ≠ some "" := by
    refine run.invariant (I := fun _ (y : Scene machine) ↦
      source.Explains y.state.resolution ∧ y.state.resolution.record ≠ some "") answered ?_ ?_
    · exact ⟨source.explains_of_blank _ ⟨rfl, rfl⟩, (Option.some_ne_none _).symm⟩
    · intro es y e z ⟨hs, hr⟩ answer step
      cases step with
      | start s before after c => exact source.explains_start s c hs hr
      | resume s before after p reply => exact source.explains_resume s p reply hs hr answer
  exact kept.1

end ContextSource

/-! ### A record left and selected again -/

/-- A draft on contacts with a filter of its own, and an account as context record. -/
def contactDraft (filter : String) : Config :=
  ⟨Config.currentVersion, "Contact", [⟨"Id", none, true, none⟩], filter, 10, none, .ascending,
    .plain, ⟨.all, some "Account", none, none, some "001A"⟩⟩

/-- The scene of a session that has taken over this draft. -/
def contactScene (filter : String) : Scene machine :=
  (opening none).start (.applyDraft (contactDraft filter))

theorem run_contactScene (filter : String) :
    Run (opening none) [.started (.applyDraft (contactDraft filter))]
      (contactScene filter) :=
  Run.nil.start _

namespace ContextSource

/-- A source in which the value of a field names its record. -/
def echo : ContextSource := ⟨fun _ record name ↦ .ok (some (.text (record ++ "." ++ name)))⟩

private theorem echo_answers (record : String) :
    echo.Answers (.values (some "Account") record ["Name"])
      (.ok [("Name", .text (record ++ "." ++ "Name"))]) := by
  intro name hn
  rw [List.mem_singleton.mp hn]
  rfl

/-- The first fetch for a record may end while the same record is selected again, and the fetch for
the record in between after it. -/
theorem values_of_reselected_record : ∃ (es : List (Event machine)) (x : Scene machine),
    Run (opening none) es x ∧ (∀ e ∈ es, e.Obeys echo.Answers) ∧
      x.state.resolution.values = [("Name", .text "001A.Name")] ∧
      echo.Explains x.state.resolution := by
  let ticket (record : String) : Suspension := .values ⟨some "Account", record, ["Name"]⟩
  let reply (record : String) : Except Failure (Entries Value) :=
    .ok [("Name", .text (record ++ "." ++ "Name"))]
  have chosen : Run (opening none) _ _ :=
    (((run_contactScene "WHERE Name = $record.Name").start .ensureValues).start
      (.selectContextRecord (some "001B"))).start (.selectContextRecord (some "001A"))
  have run : Run (opening none) _ _ :=
    (chosen.resume [] [ticket "001B", ticket "001A"] (ticket "001A") rfl (reply "001A")).resume
      [] [ticket "001A"] (ticket "001B") rfl (reply "001B")
  refine ⟨_, _, run, ?answered, rfl, echo.values_of_selected_record none run ?answered⟩
  simp only [List.mem_append, List.mem_singleton, or_imp, forall_and, forall_eq]
  exact ⟨⟨⟨⟨⟨trivial, trivial⟩, trivial⟩, trivial⟩, echo_answers "001A"⟩, echo_answers "001B"⟩

end ContextSource

end TableView.Editor
