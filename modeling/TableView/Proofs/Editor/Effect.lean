import TableView.Editor.Operation
import TableView.Proofs.Field.Moves
import TableView.Proofs.Merge.Outcome
import TableView.Proofs.Merge.Scan
import TableView.Proofs.Task.Scene

/-!
# Effects on the resolution

Everything that one step of an operation can do to the query, its merge tokens and their values,
and which operation it leaves suspended. A step leaves them alone, or it switches the object and
asks for its fields, or it makes an edit and then fetches values if some are missing
(`Session.start_effect`, `Session.resume_effect`). An edit comes to a halt where the query cannot be
written, and then nothing is known of its tokens. Two steps are kept apart: taking over a draft
as it is, which fetches nothing (`Session.applyDraft_renewed`), and the reply to a fetch
(`Session.resumeValues_state`).
-/

namespace TableView.Editor

open TableView.Task (Progress.waiting Scene)

/-- The session of a viewer as it is opened, with nothing suspended. -/
def opening (viewer : Option String) : Scene machine := ⟨Session.initial viewer, []⟩

/-- Whether an operation edits the draft without looking for merge tokens again: it moves or drags a
field, or sets something other than the object, the filter and which fields are visible. -/
def Command.isQuiet : Command → Bool
  | setFieldLabel _ _ | setFieldSortable _ _ | moveFieldUp _ | moveFieldDown _ | setFieldFilter _
  | startDrag _ | dropOn _ _ | endDrag | setRowLimit _ | setDefaultSort _ _
  | setDisplay _ _ _ => true
  | _ => false

namespace Session

/-- The merge tokens of the draft: those of its query, with a row limit that can be written. -/
def mergeTokens (s : Session) : List String :=
  Merge.tokens (Query.compile s.draft.object s.draft.fields s.draft.filter RowLimit.standard)

/-- The merge tokens of the resolution are those of the draft. -/
def Scanned (s : Session) : Prop :=
  ∀ name, name ∈ s.resolution.tokens ↔ name ∈ s.mergeTokens

/-- The query cannot be written. -/
def Unwritten (s : Session) : Prop := ∃ f, s.query = .error f

/-- The object is the same, and so are the merge tokens of the draft, in whatever order. -/
def SameQuery (s s' : Session) : Prop :=
  s'.draft.object = s.draft.object ∧ ∀ name, name ∈ s'.mergeTokens ↔ name ∈ s.mergeTokens

/-- The resolution is left alone, and so is what it is about. -/
structure Kept (s s' : Session) : Prop where
  resolution : s'.resolution = s.resolution
  query : s.SameQuery s'

/-- The merge tokens are read off the query, if it can be written, and nothing is fetched for them
yet. -/
structure Renewed (s : Session) : Prop where
  blank : s.resolution.Blank
  tokens : ∀ query, s.query = .ok query → s.resolution.tokens = Merge.tokens query
  unread : s.Unwritten → s.resolution.tokens = []
  record : s.resolution.record ≠ some ""

end Session

/-- A change of a session after which it is time to fetch the values that are missing. -/
inductive Edit (s : Session) : Session → Prop
  | unchanged : Edit s s
  | rescanned {s' : Session} {query : String} : s'.query = .ok query →
    s'.resolution = s.resolution.withQuery query → Edit s s'
  | selected {s' : Session} : s'.resolution.Blank → s'.resolution.tokens = s.resolution.tokens →
    (s.resolution.record ≠ some "" → s'.resolution.record ≠ some "") → s.SameQuery s' → Edit s s'
  | renewed {s' : Session} : s'.Renewed → Edit s s'

/-- A fetch is started for all tokens, or none is needed. -/
inductive Fetched (s : Session) : Session → List Suspension → Prop
  | unneeded : s.resolution.needsFetch = false → Fetched s s []
  | begun {record : String} : Resolution.given s.resolution.record = some record →
    Fetched s (s.withResolution { s.resolution with error := none })
      [.values ⟨s.resolution.object, record, s.resolution.tokens⟩]

/-- What a step makes of a session, and what it leaves suspended. -/
inductive Effect (s : Session) : Session → List Suspension → Prop
  | kept {s' : Session} {w : List Suspension} : s'.resolution = s.resolution → s.SameQuery s' →
    Effect s s' w
  | switched {s' : Session} : s'.resolution = s.resolution →
    Effect s s' [.fields s'.draft.object]
  | halted {s' : Session} : s'.resolution = s.resolution → s'.Unwritten → Effect s s' []
  | settled {s₁ s' : Session} {w : List Suspension} : Edit s s₁ → Fetched s₁ s' w → Effect s s' w

namespace Session

variable {s : Session}

/-- A query that is written has the merge tokens of the draft. -/
theorem mem_tokens_query {query : String} (h : s.query = .ok query) (name : String) :
    name ∈ Merge.tokens query ↔ name ∈ s.mergeTokens := by
  obtain ⟨n, rfl⟩ := Query.exists_compile_of_compileWith h
  exact Merge.mem_tokens_compile_congr name _ _ _ _ (.refl _)

theorem Renewed.scan (h : s.Renewed) : s.Scanned ∨ s.Unwritten := by
  cases hq : s.query with
  | error f => exact .inr ⟨f, hq⟩
  | ok query =>
    refine .inl fun name ↦ ?_
    rw [h.tokens query hq, mem_tokens_query hq]

theorem preview_of_query {query : String} (h : s.query = .ok query) :
    s.preview = .ok (Merge.preview query s.resolution.tokens s.resolution.readiness
      s.resolution.values s.viewer s.resolution.record) := by
  rw [preview, h]
  rfl

theorem rescan_of_ok {query : String} (h : s.query = .ok query) :
    s.rescan = (.ok (), s.withResolution (s.resolution.withQuery query)) := by
  rw [rescan, h]

theorem rescan_of_error {f : Failure} (h : s.query = .error f) : s.rescan = (.error f, s) := by
  rw [rescan, h]

/-- A look for merge tokens changes these alone. -/
theorem exists_rescan_snd (s : Session) :
    ∃ tokens, s.rescan.2 = s.withResolution { s.resolution with tokens := tokens } := by
  cases h : s.query with
  | ok query => exact ⟨_, congrArg Prod.snd (rescan_of_ok h)⟩
  | error f => exact ⟨_, congrArg Prod.snd (rescan_of_error h)⟩

@[simp] theorem rescan_draft (s : Session) : s.rescan.2.draft = s.draft := by
  obtain ⟨tokens, h⟩ := s.exists_rescan_snd
  rw [h]
  rfl

@[simp] theorem rescan_generation (s : Session) : s.rescan.2.generation = s.generation := by
  obtain ⟨tokens, h⟩ := s.exists_rescan_snd
  rw [h]
  rfl

theorem rescan_scan (s : Session) : s.rescan.2.Scanned ∨ s.rescan.2.Unwritten := by
  cases h : s.query with
  | ok query =>
    rw [rescan_of_ok h]
    exact .inl fun name ↦ mem_tokens_query h name
  | error f =>
    rw [rescan_of_error h]
    exact .inr ⟨f, h⟩

/-- A look for merge tokens in a draft with nothing fetched, and with no tokens known. -/
theorem rescan_renewed (blank : s.resolution.Blank) (unread : s.resolution.tokens = [])
    (record : s.resolution.record ≠ some "") : s.rescan.2.Renewed := by
  cases h : s.query with
  | ok query =>
    rw [rescan_of_ok h]
    refine ⟨blank, fun query' h' ↦ ?_, fun ⟨f, hf⟩ ↦ ?_, record⟩
    · rw [Except.ok.inj (h'.symm.trans h)]
      rfl
    · cases hf.symm.trans h
  | error f =>
    rw [rescan_of_error h]
    exact ⟨blank, fun query hq ↦ (nomatch hq.symm.trans h), fun _ ↦ unread, record⟩

/-- Where a query cannot be written, what comes after the look for merge tokens is left out. -/
theorem rescanAndFetch_of_ok {query : String} (h : s.query = .ok query) :
    s.rescanAndFetch = (s.withResolution (s.resolution.withQuery query)).fetchIfNeeded := by
  rw [rescanAndFetch, rescan_of_ok h, andThen]

theorem rescanAndFetch_of_error {f : Failure} (h : s.query = .error f) :
    s.rescanAndFetch = s.fail f := by
  rw [rescanAndFetch, rescan_of_error h, andThen]

end Session

namespace Fetched

variable {s s' : Session} {w : List Suspension}

/-- To start a fetch changes nothing of the draft. -/
theorem draft_eq (h : Fetched s s' w) : s'.draft = s.draft := by
  cases h with
  | unneeded => rfl
  | begun => rfl

theorem scanned (h : Fetched s s' w) (hs : s.Scanned) : s'.Scanned := by
  cases h with
  | unneeded => exact hs
  | begun => exact hs

theorem unwritten (h : Fetched s s' w) (hs : s.Unwritten) : s'.Unwritten := by
  cases h with
  | unneeded => exact hs
  | begun => exact hs

/-- The fetch that is started is current, so every token has a value or is being fetched. -/
theorem covered (h : Fetched s s' w) (needed : s'.resolution.needsFetch = true) :
    ∃ t, .values t ∈ w ∧ s'.resolution.isCurrent t = true := by
  cases h with
  | unneeded hn =>
    rw [hn] at needed
    cases needed
  | @begun record hr =>
    refine ⟨_, List.mem_singleton_self _, (Resolution.isCurrent_iff _ _).mpr ⟨rfl, ?_, ?_⟩⟩
    · exact ((Resolution.given_eq_some_iff _ _).mp hr).1
    · exact fun name hn ↦ hn

end Fetched

namespace Effect

variable {s s' : Session} {w : List Suspension}

/-- After a step the merge tokens are those of the draft, or they are as far from it as before, or
the object was switched and its fields are asked for, or the query cannot be written. -/
theorem scan (h : Effect s s' w) :
    s'.Scanned ∨ (s'.draft.object = s.draft.object ∧ (s.Scanned → s'.Scanned)) ∨
      .fields s'.draft.object ∈ w ∨ s'.Unwritten := by
  have same {s₁ : Session} (hr : s₁.resolution.tokens = s.resolution.tokens)
      (hq : s.SameQuery s₁) (hs : s.Scanned) : s₁.Scanned := by
    intro name
    rw [hr, hs name, hq.2 name]
  cases h with
  | kept hr hq => exact .inr (.inl ⟨hq.1, same (congrArg Resolution.tokens hr) hq⟩)
  | switched => exact .inr (.inr (.inl (List.mem_singleton_self _)))
  | halted hr hu => exact .inr (.inr (.inr hu))
  | @settled s₁ _ _ edit fetched =>
    have ho : s'.draft.object = s₁.draft.object := congrArg Draft.object fetched.draft_eq
    cases edit with
    | unchanged => exact .inr (.inl ⟨ho, fetched.scanned⟩)
    | rescanned hq hr =>
      refine .inl (fetched.scanned fun name ↦ ?_)
      rw [hr]
      exact Session.mem_tokens_query hq name
    | selected hb ht hr hq =>
      exact .inr (.inl ⟨ho.trans hq.1, fun hs ↦ fetched.scanned (same ht hq hs)⟩)
    | renewed hn =>
      rcases hn.scan with hs | hu
      · exact .inl (fetched.scanned hs)
      · exact .inr (.inr (.inr (fetched.unwritten hu)))

/-- A step leaves the resolution as it is, or whatever is missing after it is being fetched. -/
theorem covered (h : Effect s s' w) :
    s'.resolution = s.resolution ∨ (s'.resolution.needsFetch = true →
      ∃ t, .values t ∈ w ∧ s'.resolution.isCurrent t = true) := by
  cases h with
  | kept hr => exact .inl hr
  | switched hr => exact .inl hr
  | halted hr => exact .inl hr
  | settled edit fetched => exact .inr fetched.covered

/-- What holds of every resolution without values and error, whatever the tokens are, and goes on to
hold when a selected record's error is forgotten, is kept by every step. -/
theorem keeps {P : Resolution → Prop} (h : Effect s s' w) (hs : P s.resolution)
    (blank : ∀ r : Resolution, r.Blank → P r)
    (scan : ∀ (r : Resolution) (query : String), P r → P (r.withQuery query))
    (begun : ∀ r : Resolution, r.Selected → P r → P { r with error := none }) :
    P s'.resolution := by
  cases h with
  | kept hr => rwa [hr]
  | switched hr => rwa [hr]
  | halted hr => rwa [hr]
  | @settled s₁ _ _ edit fetched =>
    have h₁ : P s₁.resolution := by
      cases edit with
      | unchanged => exact hs
      | rescanned hq hr =>
        rw [hr]
        exact scan _ _ hs
      | selected hb => exact blank _ hb
      | renewed hn => exact blank _ hn.blank
    cases fetched with
    | unneeded => exact h₁
    | begun hr => exact begun _ ⟨_, hr⟩ h₁

/-- No step selects a record with an empty id. -/
theorem record_ne_empty (h : Effect s s' w) (hs : s.resolution.record ≠ some "") :
    s'.resolution.record ≠ some "" := by
  cases h with
  | kept hr => rwa [hr]
  | switched hr => rwa [hr]
  | halted hr => rwa [hr]
  | @settled s₁ _ _ edit fetched =>
    have h₁ : s₁.resolution.record ≠ some "" := by
      cases edit with
      | unchanged => exact hs
      | rescanned hq hr =>
        rw [hr]
        exact hs
      | selected hb ht hr => exact hr hs
      | renewed hn => exact hn.record
    cases fetched with
    | unneeded => exact h₁
    | begun => exact h₁

end Effect

namespace Session

variable (s : Session)

private theorem sameQuery_of_eq {s' : Session} (ho : s'.draft.object = s.draft.object)
    (hq : s'.mergeTokens = s.mergeTokens) : s.SameQuery s' := by
  refine ⟨ho, fun name ↦ ?_⟩
  rw [hq]

private theorem sameQuery_of_visible {s' : Session} (ho : s'.draft.object = s.draft.object)
    (hf : s'.draft.filter = s.draft.filter)
    (hv : (s'.draft.fields.visible.map Field.name).Perm (s.draft.fields.visible.map Field.name)) :
    s.SameQuery s' := by
  refine ⟨ho, fun name ↦ ?_⟩
  unfold mergeTokens
  rw [ho, hf]
  exact Merge.mem_tokens_compile_congr name _ _ _ _ hv

private theorem kept_of_eq {s' : Session} (w : List Suspension)
    (hr : s'.resolution = s.resolution) (ho : s'.draft.object = s.draft.object)
    (hq : s'.mergeTokens = s.mergeTokens) : Effect s s' w :=
  .kept hr (sameQuery_of_eq s ho hq)

theorem fetch_fetched (h : s.resolution.Selected) :
    Fetched s s.fetch.1 s.fetch.2.waiting := by
  obtain ⟨record, hr⟩ := h
  unfold fetch
  rw [Resolution.begin?_of_given _ record hr]
  exact .begun hr

theorem fetchIfNeeded_fetched : Fetched s s.fetchIfNeeded.1 s.fetchIfNeeded.2.waiting := by
  unfold fetchIfNeeded
  split
  · next h => exact fetch_fetched s ((Resolution.needsFetch_iff _).mp h).1
  · next h => exact .unneeded (Bool.eq_false_iff.mpr h)

theorem rescanAndFetch_scan : s.rescanAndFetch.1.Scanned ∨ s.rescanAndFetch.1.Unwritten := by
  cases h : s.query with
  | ok query =>
    rw [rescanAndFetch_of_ok h]
    exact .inl ((fetchIfNeeded_fetched _).scanned fun name ↦ mem_tokens_query h name)
  | error f =>
    rw [rescanAndFetch_of_error h]
    exact .inr ⟨f, h⟩

/-- Looking for merge tokens again after a change that leaves the resolution alone. -/
private theorem rescanAndFetch_edited (s' : Session) (h : s'.resolution = s.resolution) :
    Effect s s'.rescanAndFetch.1 s'.rescanAndFetch.2.waiting := by
  cases hq : s'.query with
  | ok query =>
    rw [rescanAndFetch_of_ok hq, h]
    have edit : Edit s (s'.withResolution (s.resolution.withQuery query)) := .rescanned hq rfl
    exact .settled edit (fetchIfNeeded_fetched _)
  | error f =>
    rw [rescanAndFetch_of_error hq]
    exact .halted h ⟨f, hq⟩

theorem query_of_not_possible (h : Query.isPossible s.draft.object s.draft.fields = false) :
    s.query = .ok "" := by
  rw [query, Query.compileWith, h, if_neg Bool.false_ne_true]

theorem query_of_no_fields (h : s.draft.fields = .empty) : s.query = .ok "" := by
  refine s.query_of_not_possible ?_
  rw [h, Query.isPossible]
  simp [FieldList.anyVisible, FieldList.empty]

theorem query_of_no_object (h : s.draft.object = "") : s.query = .ok "" := by
  refine s.query_of_not_possible ?_
  rw [h, Query.isPossible]
  simp

theorem dropFields_eq :
    s.dropFields = (s.withFields .empty).withResolution (s.resolution.withQuery "") :=
  congrArg Prod.snd (rescan_of_ok ((s.withFields .empty).query_of_no_fields rfl))

private theorem dropFields_settled {s' : Session} (h : s'.resolution = s.resolution) :
    Effect s s'.dropFields [] := by
  have hq : s'.dropFields.query = .ok "" := by
    rw [dropFields_eq]
    exact query_of_no_fields _ rfl
  refine .settled (.rescanned hq ?_) (.unneeded (Resolution.needsFetch_of_no_tokens _ ?_))
  · rw [dropFields_eq, ← h]
    rfl
  · rw [dropFields_eq]
    rfl

theorem reset_renewed : s.reset.Renewed where
  blank := ⟨rfl, rfl⟩
  tokens query h := by
    rw [← Except.ok.inj ((query_of_no_object s.reset rfl).symm.trans h)]
    rfl
  unread _ := rfl
  record := (Option.some_ne_none _).symm

theorem clone_renewed : s.clone.2.Renewed :=
  rescan_renewed ⟨rfl, rfl⟩ rfl (Option.some_ne_none _).symm

theorem clone_record : s.clone.2.resolution.record = none := by
  obtain ⟨tokens, h⟩ := s.copied.exists_rescan_snd
  rw [clone, h]
  rfl

private theorem reset_settled : Effect s s.reset [] :=
  .settled (.renewed s.reset_renewed) (.unneeded (Resolution.needsFetch_of_no_record _ rfl))

/-- The state that an operation leaves is that of its last change, also where this has failed. -/
theorem conclude_fst (result : Except Failure Unit × Session) : (conclude result).1 = result.2 := by
  rcases result with ⟨(f | u), s'⟩
  · rfl
  · rfl

theorem conclude_waiting (result : Except Failure Unit × Session) :
    (conclude result).2.waiting = [] := by
  rcases result with ⟨(f | u), s'⟩
  · rfl
  · rfl

private theorem clone_settled :
    Effect s (conclude s.clone).1 (conclude s.clone).2.waiting := by
  rw [conclude_fst, conclude_waiting]
  exact .settled (.renewed s.clone_renewed)
    (.unneeded (Resolution.needsFetch_of_no_record _ s.clone_record))

theorem applyConfig_renewed (c : Config) (fields : FieldList) (id : Option Int) :
    (s.applyConfig c fields id).2.Renewed :=
  rescan_renewed ⟨rfl, rfl⟩ rfl (Resolution.given_ne_empty _)

/-- What a saved configuration is taken over with if its query can be written, and otherwise. -/
theorem applySaved_cases (entry : SavedConfig) (fields : FieldList) (id : Option Int) :
    (∃ s', s.applyConfig entry.config fields id = (.ok (), s') ∧
        s.applySaved entry fields id = (.ok (), s'.applyEntry entry)) ∨
      ∃ f s', s.applyConfig entry.config fields id = (.error f, s') ∧
        s.applySaved entry fields id = (.error f, s') := by
  unfold applySaved
  rcases s.applyConfig entry.config fields id with ⟨(f | u), s'⟩
  · exact .inr ⟨f, s', rfl, rfl⟩
  · exact .inl ⟨s', rfl, rfl⟩

/-- Only the merge tokens, the name and the description depend on whether it can be written. -/
theorem exists_applySaved_snd (entry : SavedConfig) (fields : FieldList) (id : Option Int) :
    let t := s.configured entry.config fields id
    ∃ tokens name description, (s.applySaved entry fields id).2 =
      { t.withResolution { t.resolution with tokens := tokens } with
        draft := { t.draft with name := name, description := description } } := by
  intro t
  unfold applySaved applyConfig
  cases hq : (s.configured entry.config fields id).query with
  | ok query =>
    rw [rescan_of_ok hq]
    exact ⟨_, _, _, rfl⟩
  | error f =>
    rw [rescan_of_error hq]
    exact ⟨_, _, _, rfl⟩

/-- Name and description have nothing to do with the query and its values. -/
theorem Renewed.applyEntry {s : Session} (h : s.Renewed) (entry : SavedConfig) :
    (s.applyEntry entry).Renewed :=
  ⟨h.blank, h.tokens, h.unread, h.record⟩

theorem unwritten_of_applyConfig {s s' : Session} {c : Config} {fields : FieldList}
    {id : Option Int} {f : Failure} (h : s.applyConfig c fields id = (.error f, s')) :
    s'.Unwritten := by
  rw [applyConfig] at h
  cases hq : (s.configured c fields id).query with
  | ok query =>
    rw [rescan_of_ok hq] at h
    cases h
  | error g =>
    rw [rescan_of_error hq] at h
    cases h
    exact ⟨_, hq⟩

theorem applySaved_renewed (entry : SavedConfig) (fields : FieldList) (id : Option Int) :
    (s.applySaved entry fields id).2.Renewed := by
  have renewed := s.applyConfig_renewed entry.config fields id
  rcases s.applySaved_cases entry fields id with ⟨s', ha, hs⟩ | ⟨f, s', ha, hs⟩
  · rw [ha] at renewed
    rw [hs]
    exact renewed.applyEntry entry
  · rw [ha] at renewed
    rw [hs]
    exact renewed

/-- A draft taken over as it is: its tokens are known, and nothing is fetched. -/
theorem applyDraft_renewed (c : Config) :
    (s.start (.applyDraft c)).1.Renewed ∧ (s.start (.applyDraft c)).2.waiting = [] := by
  change (conclude (s.applyDraft c)).1.Renewed ∧ (conclude (s.applyDraft c)).2.waiting = []
  rw [conclude_fst, conclude_waiting]
  exact ⟨s.applyConfig_renewed c _ none, rfl⟩

private theorem selectObject_effect (name : String) :
    Effect s (s.selectObject name).1 (s.selectObject name).2.waiting := by
  unfold selectObject
  split
  · exact dropFields_settled s rfl
  · exact .switched rfl

private theorem saveConfig_effect (name description : Option String) :
    Effect s (s.saveConfig name description).1 (s.saveConfig name description).2.waiting := by
  unfold saveConfig
  dsimp only
  repeat' split
  all_goals exact kept_of_eq s _ rfl rfl rfl

private theorem quiet_of_same {s' : Session} (hr : s'.resolution = s.resolution)
    (ho : s'.draft.object = s.draft.object) (hq : s'.mergeTokens = s.mergeTokens) :
    s.Kept s'.finish.1 ∧ s'.finish.2.waiting = [] :=
  ⟨⟨hr, sameQuery_of_eq s ho hq⟩, rfl⟩

private theorem quiet_withFields {fields : FieldList} (h : fields.Restyles s.draft.fields) :
    s.Kept (s.withFields fields).finish.1 ∧ (s.withFields fields).finish.2.waiting = [] :=
  ⟨⟨rfl, sameQuery_of_visible s rfl rfl h.visible_perm⟩, rfl⟩

private theorem quiet_conclude {result : Except Failure Unit × Session} (h : s.Kept result.2) :
    s.Kept (conclude result).1 ∧ (conclude result).2.waiting = [] := by
  rw [conclude_fst]
  exact ⟨h, conclude_waiting result⟩

private theorem setFieldFilter_kept (filter : Value) : s.Kept (s.setFieldFilter filter).2 := by
  unfold setFieldFilter
  split
  · exact ⟨rfl, sameQuery_of_eq s rfl rfl⟩
  · exact ⟨rfl, sameQuery_of_eq s rfl rfl⟩

private theorem setRowLimit_kept (limit : Value) : s.Kept (s.setRowLimit limit).2 := by
  unfold setRowLimit
  split
  · exact ⟨rfl, sameQuery_of_visible s rfl rfl (.refl _)⟩
  · exact ⟨rfl, sameQuery_of_eq s rfl rfl⟩
  · exact ⟨rfl, sameQuery_of_eq s rfl rfl⟩

private theorem setDefaultSort_kept (field : Option String) (direction : Value) :
    s.Kept (s.setDefaultSort field direction).2 := by
  unfold setDefaultSort
  split
  · exact ⟨rfl, sameQuery_of_eq s rfl rfl⟩
  · split
    · exact ⟨rfl, sameQuery_of_eq s rfl rfl⟩
    · exact ⟨rfl, sameQuery_of_eq s rfl rfl⟩

private theorem dropOn_kept (target : String) (after : Bool) : s.Kept (s.dropOn target after) := by
  unfold dropOn
  split
  · exact ⟨rfl, sameQuery_of_visible s rfl rfl
      (FieldList.restyles_of_perm (FieldList.reorder_perm _ _ _ _)).visible_perm⟩
  · exact ⟨rfl, sameQuery_of_eq s rfl rfl⟩

/-- An edit after which no merge tokens are looked for leaves them as they are, suspends nothing and
leaves the resolution alone. -/
theorem start_quiet {c : Command} (quiet : c.isQuiet = true) :
    s.Kept (s.start c).1 ∧ (s.start c).2.waiting = [] := by
  cases c with
  | setFieldLabel name label => exact quiet_withFields s (FieldList.setLabel_restyles _ _ _)
  | setFieldSortable name b => exact quiet_withFields s (FieldList.setSortable_restyles _ _ _)
  | moveFieldUp name =>
    exact quiet_withFields s (FieldList.restyles_of_perm (FieldList.moveUp_perm _ _))
  | moveFieldDown name =>
    exact quiet_withFields s (FieldList.restyles_of_perm (FieldList.moveDown_perm _ _))
  | startDrag name => exact quiet_of_same s rfl rfl rfl
  | dropOn target after => exact ⟨dropOn_kept s target after, rfl⟩
  | endDrag => exact quiet_of_same s rfl rfl rfl
  | setFieldFilter filter => exact quiet_conclude s (setFieldFilter_kept s filter)
  | setRowLimit limit => exact quiet_conclude s (setRowLimit_kept s limit)
  | setDefaultSort field direction => exact quiet_conclude s (setDefaultSort_kept s field direction)
  | setDisplay recordCount search refresh => exact quiet_of_same s rfl rfl rfl
  | _ => cases quiet

private theorem start_quiet_effect {c : Command} (quiet : c.isQuiet = true) :
    Effect s (s.start c).1 (s.start c).2.waiting :=
  .kept (start_quiet s quiet).1.resolution (start_quiet s quiet).1.query

private theorem refreshValues_effect :
    Effect s (s.start .refreshValues).1 (s.start .refreshValues).2.waiting := by
  simp only [start]
  split
  · next h =>
    exact .settled .unchanged (fetch_fetched s ((Resolution.getD_ne_empty_iff _).mp h.1))
  · exact kept_of_eq s _ rfl rfl rfl

/-- What it means to start an operation, other than to take over a draft as it is. -/
theorem start_effect (c : Command) (hc : ∀ config, c ≠ .applyDraft config) :
    Effect s (s.start c).1 (s.start c).2.waiting := by
  cases c with
  | selectObject name => exact selectObject_effect s _
  | setFieldVisible name visible =>
    exact rescanAndFetch_edited s (s.withFields (s.draft.fields.setVisible name visible)) rfl
  | setAllVisible visible =>
    exact rescanAndFetch_edited s (s.withFields (s.draft.fields.setAllVisible visible)) rfl
  | setFilter filter =>
    exact rescanAndFetch_edited s { s with draft := { s.draft with filter := filter.getD "" } } rfl
  | setFieldLabel name label | setFieldSortable name sortable | moveFieldUp name
  | moveFieldDown name | setFieldFilter filter | startDrag name | dropOn target after | endDrag
  | setRowLimit limit | setDefaultSort field direction | setDisplay recordCount search refresh =>
    exact start_quiet_effect s rfl
  | selectContextObject object label =>
    have he : Edit s (s.selectContextObject object label) :=
      .selected ⟨rfl, rfl⟩ rfl (Resolution.selectObject_record_ne_empty _ object)
        (sameQuery_of_eq s rfl rfl)
    exact .settled he (fetchIfNeeded_fetched (s.selectContextObject object label))
  | selectContextRecord record =>
    have he : Edit s (s.selectContextRecord record) :=
      .selected ⟨rfl, rfl⟩ rfl (fun _ ↦ Resolution.given_ne_empty record)
        (sameQuery_of_eq s rfl rfl)
    exact .settled he (fetchIfNeeded_fetched (s.selectContextRecord record))
  | clearContext =>
    have he : Edit s s.clearContext :=
      .selected ⟨rfl, rfl⟩ rfl (fun _ ↦ (Option.some_ne_none _).symm) (sameQuery_of_eq s rfl rfl)
    exact .settled he (.unneeded (Resolution.needsFetch_of_no_record _ rfl))
  | refreshValues => exact refreshValues_effect s
  | ensureValues => exact .settled .unchanged (fetchIfNeeded_fetched s)
  | new => exact reset_settled s
  | clone => exact clone_settled s
  | applyDraft config => exact absurd rfl (hc config)
  | saveConfig name description => exact saveConfig_effect s name description
  | deleteConfig =>
    simp only [start, deleteConfig]
    split
    · exact kept_of_eq s _ rfl rfl rfl
    · exact kept_of_eq s _ rfl rfl rfl
  | loadObjects => exact kept_of_eq s _ rfl rfl rfl
  | searchContextObjects term => exact kept_of_eq s _ rfl rfl rfl
  | loadConfig id => exact kept_of_eq s _ rfl rfl rfl
  | listConfigs => exact kept_of_eq s _ rfl rfl rfl
  | toConfig => exact kept_of_eq s _ rfl rfl rfl

/-! ### Replies -/

private theorem resumeObjects_effect (reply : Except Failure (List Source.ObjectOption)) :
    Effect s (s.resumeObjects reply).1 (s.resumeObjects reply).2.waiting := by
  cases reply with
  | ok found => exact kept_of_eq s _ rfl rfl rfl
  | error f =>
    simp only [resumeObjects]
    split
    · exact kept_of_eq s _ rfl rfl rfl
    · exact kept_of_eq s _ rfl rfl rfl

private theorem resumeFields_effect (requested : String)
    (reply : Except Failure (List DiscoveredField)) :
    Effect s (s.resumeFields requested reply).1 (s.resumeFields requested reply).2.waiting := by
  simp only [resumeFields]
  split
  · split
    · exact dropFields_settled s rfl
    · exact kept_of_eq s _ rfl rfl rfl
  · next fields hd =>
    split
    · exact rescanAndFetch_edited s (Session.takeFields { s with loading := false } fields) rfl
    · exact kept_of_eq s _ rfl rfl rfl

private theorem resumeSearch_effect (term : String)
    (reply : Except Failure (List Source.ObjectOption)) :
    Effect s (s.resumeSearch term reply).1 (s.resumeSearch term reply).2.waiting := by
  cases reply with
  | error f => exact kept_of_eq s _ rfl rfl rfl
  | ok found =>
    simp only [resumeSearch]
    split
    · exact kept_of_eq s _ rfl rfl rfl
    · exact kept_of_eq s _ rfl rfl rfl

private theorem resumeEntry_effect (id : Option Int) (generation : Nat)
    (reply : Except Failure (Option SavedConfig)) :
    Effect s (s.resumeEntry id generation reply).1
      (s.resumeEntry id generation reply).2.waiting := by
  rcases reply with f | (_ | entry)
  · exact kept_of_eq s _ rfl rfl rfl
  · exact kept_of_eq s _ rfl rfl rfl
  · simp only [resumeEntry]
    split
    · exact kept_of_eq s _ rfl rfl rfl
    · exact kept_of_eq s _ rfl rfl rfl

/-- A configuration whose query can be written is taken over, with the name and the description. -/
theorem applySaved_of_query {entry : SavedConfig} {fields : FieldList} {id : Option Int}
    {query : String} (h : (s.configured entry.config fields id).query = .ok query) :
    s.applySaved entry fields id = (.ok (),
      ((s.configured entry.config fields id).withResolution
        ((s.configured entry.config fields id).resolution.withQuery query)).applyEntry entry) := by
  rw [applySaved, applyConfig, rescan_of_ok h]

/-- With no fields at all a configuration can always be taken over. -/
theorem applySaved_empty (entry : SavedConfig) (id : Option Int) :
    s.applySaved entry .empty id = (.ok (),
      ((s.configured entry.config .empty id).withResolution
        ((s.configured entry.config .empty id).resolution.withQuery "")).applyEntry entry) :=
  s.applySaved_of_query (query_of_no_fields _ rfl)

private theorem applySaved_empty_settled {s' : Session} (entry : SavedConfig) (id : Option Int) :
    Effect s (s'.applySaved entry .empty id).2 [] := by
  refine .settled (.renewed (s'.applySaved_renewed entry .empty id))
    (.unneeded (Resolution.needsFetch_of_no_tokens _ ?_))
  rw [applySaved_empty]
  rfl

private theorem applySaved_settled {s' : Session} (entry : SavedConfig) (fields : FieldList)
    (id : Option Int) : Effect s (andThen fetchIfNeeded (s'.applySaved entry fields id)).1
      (andThen fetchIfNeeded (s'.applySaved entry fields id)).2.waiting := by
  have renewed := s'.applySaved_renewed entry fields id
  rcases s'.applySaved_cases entry fields id with ⟨t, -, ht⟩ | ⟨f, t, ha, ht⟩
  · rw [ht] at renewed ⊢
    exact .settled (.renewed renewed) (fetchIfNeeded_fetched _)
  · rw [ht] at renewed ⊢
    refine .settled (.renewed renewed) (.unneeded (Resolution.needsFetch_of_no_tokens _ ?_))
    exact renewed.unread (unwritten_of_applyConfig ha)

private theorem resumeEntryFields_effect (id : Option Int) (generation : Nat) (entry : SavedConfig)
    (reply : Except Failure (List DiscoveredField)) :
    Effect s (s.resumeEntryFields id generation entry reply).1
      (s.resumeEntryFields id generation entry reply).2.waiting := by
  simp only [resumeEntryFields]
  split
  · split
    · exact applySaved_empty_settled s entry id
    · exact kept_of_eq s _ rfl rfl rfl
  · next live hd =>
    split
    · exact applySaved_settled s entry _ id
    · exact kept_of_eq s _ rfl rfl rfl

/-- What it means to go on with an operation that waits for something other than values. -/
theorem resume_effect (p : Suspension) (reply : p.call.Reply) (hp : ∀ t, p ≠ .values t) :
    Effect s (s.resume p reply).1 (s.resume p reply).2.waiting := by
  cases p with
  | objects => exact resumeObjects_effect s reply
  | fields requested => exact resumeFields_effect s requested reply
  | search term => exact resumeSearch_effect s term reply
  | values t => exact absurd rfl (hp t)
  | entry id generation => exact resumeEntry_effect s id generation reply
  | entryFields id generation entry =>
    exact resumeEntryFields_effect s id generation entry reply
  | saving config name description id =>
    cases reply with
    | error f => exact kept_of_eq s _ rfl rfl rfl
    | ok saved => exact kept_of_eq s _ rfl rfl rfl
  | deleting id =>
    cases reply with
    | error f => exact kept_of_eq s _ rfl rfl rfl
    | ok deleted => exact reset_settled s
  | configs =>
    cases reply with
    | error f => exact kept_of_eq s _ rfl rfl rfl
    | ok found => exact kept_of_eq s _ rfl rfl rfl

/-- The reply to a fetch settles the resolution, and ends the operation. -/
theorem resumeValues_state (ticket : Ticket) (reply : Except Failure (Entries Value)) :
    s.resumeValues ticket reply =
      (s.withResolution (s.resolution.settle ticket reply), .finished (.ok .done)) := by
  cases reply <;> rfl

/-- That there are no fields is a failure of discovery too. -/
theorem isDiscovery_of_discovered (reply : Except Failure (List DiscoveredField))
    (h : ∀ f, reply = .error f → isDiscovery f = true) (f : Failure)
    (hd : discovered reply = .error f) : isDiscovery f = true := by
  cases reply with
  | error g =>
    cases hd
    exact h f rfl
  | ok found =>
    simp only [discovered, FieldList.ofDiscovered] at hd
    split at hd
    · cases hd
      rfl
    · cases hd

/-- When the fields of the object that is still selected have come, or there are none to be had,
the merge tokens are read off the query again, if it can be written. -/
theorem resumeFields_scan (reply : Except Failure (List DiscoveredField))
    (h : ∀ f, reply = .error f → isDiscovery f = true) :
    (s.resumeFields s.draft.object reply).1.Scanned ∨
      (s.resumeFields s.draft.object reply).1.Unwritten := by
  simp only [resumeFields, and_true, ite_true]
  split
  · next f hd =>
    rw [if_pos (isDiscovery_of_discovered reply h f hd)]
    exact rescan_scan _
  · next fields hd => exact rescanAndFetch_scan _

end Session

end TableView.Editor
