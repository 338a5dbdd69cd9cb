import Mathlib.Data.List.Basic
import TableView.Merge.Preview
import TableView.Proofs.Entries

/-!
# Outcomes of fetches

What the outcome of a fetch does to a resolution. A current ticket replaces values and error by
what its outcome alone says, a stale one changes nothing, and neither touches tokens, object or
record; so of several current outcomes the last one counts (`settle_settle`).
-/

namespace TableView.Resolution

variable (r : Resolution) (t u : Ticket)

theorem given_eq_some_iff (s : Option String) (text : String) :
    given s = some text ↔ s = some text ∧ text ≠ "" := by
  unfold given
  rw [Option.filter_eq_some_iff]
  simp

theorem given_ne_empty (s : Option String) : given s ≠ some "" := by
  intro h
  exact ((given_eq_some_iff s "").mp h).2 rfl

theorem given_of_ne_empty {s : Option String} (h : s ≠ some "") : given s = s := by
  cases s with
  | none => rfl
  | some text => exact (given_eq_some_iff _ _).mpr ⟨rfl, fun empty ↦ h (congrArg some empty)⟩

/-- Another context object keeps the record or drops it. -/
theorem selectObject_record_ne_empty (object : Option String) (h : r.record ≠ some "") :
    (r.selectObject object).record ≠ some "" := by
  simp only [selectObject]
  split
  · exact h
  · exact (Option.some_ne_none _).symm

/-- A record is selected. Empty texts count as missing. -/
def Selected : Prop := ∃ record, given r.record = some record

/-- Neither values nor an error. -/
def Blank : Prop := r.values = [] ∧ r.error = none

theorem getD_ne_empty_iff (s : Option String) :
    s.getD "" ≠ "" ↔ ∃ text, given s = some text := by
  cases s with
  | none => simp [given]
  | some text => simp [given_eq_some_iff]

theorem needsFetch_iff :
    r.needsFetch = true ↔ r.Selected ∧ ∃ name ∈ r.tokens, r.values.has name = false := by
  unfold needsFetch Selected
  rw [← getD_ne_empty_iff]
  simp

/-- A fetch is needed if a record is selected and a token is without a value. -/
theorem has_of_needsFetch_eq_false (selected : r.Selected) (h : r.needsFetch = false)
    (name : String) (hn : name ∈ r.tokens) : r.values.has name = true := by
  cases hh : r.values.has name with
  | true => rfl
  | false =>
    have := (needsFetch_iff r).mpr ⟨selected, name, hn, hh⟩
    rw [h] at this
    cases this

theorem needsFetch_of_no_tokens (h : r.tokens = []) : r.needsFetch = false := by
  rw [Bool.eq_false_iff, Ne, needsFetch_iff, h]
  rintro ⟨-, name, hn, -⟩
  cases hn

theorem needsFetch_of_no_record (h : r.record = none) : r.needsFetch = false := by
  rw [Bool.eq_false_iff, Ne, needsFetch_iff, Selected, h]
  rintro ⟨⟨record, hr⟩, -⟩
  cases hr

theorem isCurrent_iff :
    r.isCurrent t = true ↔
      t.object = r.object ∧ r.record = some t.record ∧ ∀ name ∈ r.tokens, name ∈ t.names := by
  simp only [isCurrent, Bool.and_eq_true, decide_eq_true_eq, List.all_eq_true,
    List.contains_iff_mem, and_assoc]
  constructor
  · rintro ⟨ho, hr, hn⟩
    exact ⟨ho, hr.symm, hn⟩
  · rintro ⟨ho, hr, hn⟩
    exact ⟨ho, hr.symm, hn⟩

theorem begin?_of_given (record : String) (h : given r.record = some record) :
    r.begin? = .ok (⟨r.object, record, r.tokens⟩, { r with error := none }) := by
  simp only [begin?, h]

/-- The resolution after the outcome of a fetch. -/
def settle : Except Failure (Entries Value) → Resolution
  | .ok values => (r.applyValues t values).2
  | .error f => (r.applyFailure t f.message).2

/-- The values that an outcome gives to the names of its ticket. -/
def outcomeValues : Except Failure (Entries Value) → Entries Value
  | .ok values => Entries.ofList (t.names.map fun n ↦ (n, (values.get? n).getD .null))
  | .error _ => []

theorem get?_outcomeValues (values : Entries Value) (name : String) (v : Value) :
    (outcomeValues t (.ok values)).get? name = some v ↔
      name ∈ t.names ∧ (values.get? name).getD .null = v := by
  simp only [outcomeValues, Entries.get?_ofList_map]
  split
  · next hn => simp [hn]
  · next hn => simp [hn]

/-- The error that an outcome leaves. -/
def outcomeError : Except Failure (Entries Value) → Option String
  | .ok _ => none
  | .error f =>
    some (if f.message = "" then "Failed to fetch context record values" else f.message)

theorem settle_of_current (reply : Except Failure (Entries Value)) (h : r.isCurrent t = true) :
    r.settle t reply =
      { r with values := outcomeValues t reply, error := outcomeError reply } := by
  cases reply <;> simp only [settle, applyValues, applyFailure, h, ite_true] <;> rfl

theorem settle_of_stale (reply : Except Failure (Entries Value)) (h : r.isCurrent t = false) :
    r.settle t reply = r := by
  cases reply <;> simp [settle, applyValues, applyFailure, h]

theorem settle_tokens (reply : Except Failure (Entries Value)) :
    (r.settle t reply).tokens = r.tokens := by
  cases h : r.isCurrent t with
  | true => rw [settle_of_current r t reply h]
  | false => rw [settle_of_stale r t reply h]

theorem settle_object (reply : Except Failure (Entries Value)) :
    (r.settle t reply).object = r.object := by
  cases h : r.isCurrent t with
  | true => rw [settle_of_current r t reply h]
  | false => rw [settle_of_stale r t reply h]

theorem settle_record (reply : Except Failure (Entries Value)) :
    (r.settle t reply).record = r.record := by
  cases h : r.isCurrent t with
  | true => rw [settle_of_current r t reply h]
  | false => rw [settle_of_stale r t reply h]

theorem isCurrent_settle (reply : Except Failure (Entries Value)) :
    (r.settle t reply).isCurrent u = r.isCurrent u := by
  cases h : r.isCurrent t with
  | true =>
    rw [settle_of_current r t reply h]
    rfl
  | false => rw [settle_of_stale r t reply h]

/-- Of two current outcomes the later one counts. -/
theorem settle_settle (first second : Except Failure (Entries Value))
    (ht : r.isCurrent t = true) (hu : r.isCurrent u = true) :
    (r.settle t first).settle u second = r.settle u second := by
  rw [settle_of_current _ u second ((isCurrent_settle r t u first).trans hu),
    settle_of_current r t first ht, settle_of_current r u second hu]

theorem outcomeError_error_ne_empty (f : Failure) :
    (outcomeError (.error f)).getD "" ≠ "" := by
  simp only [outcomeError, Option.getD_some]
  split
  · decide
  · next h => exact h

/-- After the outcome of a current fetch every token has a value, or there is an error. -/
theorem settle_of_current_complete (reply : Except Failure (Entries Value))
    (h : r.isCurrent t = true) :
    (r.settle t reply).error.getD "" ≠ "" ∨ (r.settle t reply).needsFetch = false := by
  rw [settle_of_current r t reply h]
  cases reply with
  | error f => exact .inl (outcomeError_error_ne_empty f)
  | ok values =>
    refine .inr (Bool.eq_false_iff.mpr ?_)
    rw [Ne, needsFetch_iff]
    rintro ⟨-, name, hn, hv⟩
    have hm : name ∈ t.names := ((isCurrent_iff r t).mp h).2.2 name hn
    have hh : (outcomeValues t (.ok values)).has name = true :=
      (Entries.has_ofList_map _ _ _).mpr hm
    simp only [hh] at hv
    cases hv

/-! ### Readiness -/

private theorem readiness_eq (r : Resolution) :
    r.readiness =
      if r.tokens = [] then .noTokens
      else if r.error.getD "" ≠ "" then .failed
      else if r.record.getD "" = "" then .awaitingRecord
      else if r.values = [] then .awaitingValues
      else .resolved := by
  simp only [readiness, Readiness.derive, List.isEmpty_iff]

theorem readiness_eq_noTokens_iff : r.readiness = .noTokens ↔ r.tokens = [] := by
  rw [readiness_eq]
  by_cases ht : r.tokens = []
  · simp only [ht, ite_true]
  · rw [if_neg ht]
    split
    · simp [ht]
    · split
      · simp [ht]
      · split <;> simp [ht]

/-- Failed means that there are tokens and an error. -/
theorem readiness_eq_failed_iff :
    r.readiness = .failed ↔ r.tokens ≠ [] ∧ r.error.getD "" ≠ "" := by
  rw [readiness_eq]
  by_cases ht : r.tokens = []
  · simp [ht]
  · by_cases he : r.error.getD "" = ""
    · rw [if_neg ht, if_neg (not_not_intro he)]
      simp only [he, ne_eq, not_true, and_false, iff_false]
      split
      · exact Readiness.noConfusion
      · split <;> exact Readiness.noConfusion
    · rw [if_neg ht, if_pos he]
      exact ⟨fun _ ↦ ⟨ht, he⟩, fun _ ↦ rfl⟩

/-- Resolved means that there are tokens, a record and some values, and no error. -/
theorem readiness_eq_resolved_iff :
    r.readiness = .resolved ↔
      r.tokens ≠ [] ∧ r.error.getD "" = "" ∧ r.Selected ∧ r.values ≠ [] := by
  rw [readiness_eq, Selected, ← getD_ne_empty_iff]
  by_cases ht : r.tokens = []
  · simp [ht]
  · by_cases he : r.error.getD "" = ""
    · rw [if_neg ht, if_neg (not_not_intro he)]
      by_cases hr : r.record.getD "" = ""
      · simp [hr]
      · by_cases hv : r.values = []
        · simp [hr, hv]
        · simp [hr, hv, ht, he]
    · rw [if_neg ht, if_pos he]
      simp [he]

/-! ### Outcomes that agree -/

/-- Both outcomes are failures, or both give each of some names the same value. -/
def Agree (names : List String) :
    Except Failure (Entries Value) → Except Failure (Entries Value) → Prop
  | .ok values, .ok others =>
    ∀ name ∈ names, (values.get? name).getD .null = (others.get? name).getD .null
  | .error _, .error _ => True
  | _, _ => False

private theorem outcomeValues_ne_nil (values : Entries Value) (h : r.isCurrent t = true)
    (tokens : r.tokens ≠ []) : outcomeValues t (.ok values) ≠ [] := by
  obtain ⟨name, hn⟩ := List.exists_mem_of_ne_nil _ tokens
  have hm : name ∈ t.names := ((isCurrent_iff r t).mp h).2.2 name hn
  have hv := (get?_outcomeValues t values name _).mpr ⟨hm, rfl⟩
  intro none
  rw [none] at hv
  cases hv

/-- After a current fetch that has failed the tokens, if there are any, have failed. -/
theorem readiness_settle_error (f : Failure) (h : r.isCurrent t = true) (tokens : r.tokens ≠ []) :
    (r.settle t (.error f)).readiness = .failed := by
  rw [settle_of_current r t _ h]
  exact (readiness_eq_failed_iff _).mpr ⟨tokens, outcomeError_error_ne_empty f⟩

/-- After a current fetch that brought values the tokens, if there are any, are resolved. -/
theorem readiness_settle_ok (values : Entries Value) (h : r.isCurrent t = true)
    (tokens : r.tokens ≠ []) (selected : r.Selected) :
    (r.settle t (.ok values)).readiness = .resolved := by
  rw [settle_of_current r t _ h]
  exact (readiness_eq_resolved_iff _).mpr
    ⟨tokens, rfl, selected, outcomeValues_ne_nil r t values h tokens⟩

/-- Whether a current fetch fails decides the readiness. -/
theorem readiness_settle_eq (first second : Except Failure (Entries Value))
    (ht : r.isCurrent t = true) (hu : r.isCurrent u = true) (agree : Agree r.tokens first second) :
    (r.settle t first).readiness = (r.settle u second).readiness := by
  by_cases tokens : r.tokens = []
  · have none (v : Ticket) (reply) : (r.settle v reply).readiness = .noTokens :=
      (readiness_eq_noTokens_iff _).mpr ((settle_tokens r v reply).trans tokens)
    rw [none, none]
  · cases first with
    | error f =>
      cases second with
      | ok values => exact agree.elim
      | error g =>
        have failed (v : Ticket) (h : Failure) (hv : r.isCurrent v = true) :
            (r.settle v (.error h)).readiness = .failed := by
          rw [settle_of_current r v _ hv]
          exact (readiness_eq_failed_iff _).mpr ⟨tokens, outcomeError_error_ne_empty h⟩
        rw [failed t f ht, failed u g hu]
    | ok values =>
      cases second with
      | error g => exact agree.elim
      | ok others =>
        rw [settle_of_current r t _ ht, settle_of_current r u _ hu]
        simp only [readiness, Readiness.derive, List.isEmpty_iff,
          outcomeValues_ne_nil r t values ht tokens, outcomeValues_ne_nil r u others hu tokens]
        rfl

private theorem getD_outcomeValues (values : Entries Value) (name : String) (hn : name ∈ t.names) :
    ((outcomeValues t (.ok values)).get? name).getD .null = (values.get? name).getD .null := by
  rw [(get?_outcomeValues t values name _).mpr ⟨hn, rfl⟩, Option.getD_some]

/-- Outcomes that agree leave the same values of the merge tokens. -/
theorem values_settle_eq (first second : Except Failure (Entries Value))
    (ht : r.isCurrent t = true) (hu : r.isCurrent u = true) (agree : Agree r.tokens first second)
    (name : String) (hn : name ∈ r.tokens) :
    ((r.settle t first).values.get? name).getD .null =
      ((r.settle u second).values.get? name).getD .null := by
  rw [settle_of_current r t _ ht, settle_of_current r u _ hu]
  cases first with
  | error f =>
    cases second with
    | ok values => exact agree.elim
    | error g => rfl
  | ok values =>
    cases second with
    | error g => exact agree.elim
    | ok others =>
      have first := getD_outcomeValues t values name (((isCurrent_iff r t).mp ht).2.2 name hn)
      have second := getD_outcomeValues u others name (((isCurrent_iff r u).mp hu).2.2 name hn)
      exact first.trans ((agree name hn).trans second.symm)

end TableView.Resolution

namespace TableView.Merge

theorem preview_ne_empty {query : String} {tokens : List String} {state : Readiness}
    {values : Entries Value} {viewer record : Option String}
    (h : preview query tokens state values viewer record ≠ "") :
    state = .noTokens ∨ state = .resolved := by
  cases state with
  | noTokens => exact .inl rfl
  | resolved => exact .inr rfl
  | awaitingRecord => exact absurd rfl h
  | awaitingValues => exact absurd rfl h
  | failed => exact absurd rfl h

private theorem fillTokens_congr (query : String) (tokens : List String)
    {values others : Entries Value}
    (h : ∀ name ∈ tokens, (values.get? name).getD .null = (others.get? name).getD .null) :
    fillTokens query tokens values = fillTokens query tokens others := by
  refine List.foldl_ext _ _ query fun q name hn ↦ ?_
  rw [h name hn]

/-- Only the values of the merge tokens matter to the preview. -/
theorem preview_congr (query : String) (tokens : List String) (state : Readiness)
    {values others : Entries Value} (viewer record : Option String)
    (h : ∀ name ∈ tokens, (values.get? name).getD .null = (others.get? name).getD .null) :
    preview query tokens state values viewer record =
      preview query tokens state others viewer record := by
  cases state with
  | resolved => simp only [preview, fillTokens_congr query tokens h]
  | _ => rfl

/-! ### The first character -/

private theorem head?_fill {query placeholder : String} (literal : String) {c : Char}
    (first : query.toList.head? = some c) (other : placeholder.toList.head? = some '$')
    (apart : c ≠ '$') : (fill query placeholder literal).toList.head? = some c := by
  obtain ⟨rest, same⟩ := List.head?_eq_some_iff.mp first
  obtain ⟨name, same'⟩ := List.head?_eq_some_iff.mp other
  have none : occursAt ('$' :: name) (c :: rest) = false := by
    simp [occursAt, List.isPrefixOf, apart.symm]
  rw [fill, String.toList_ofList, same, same', fillFrom, none]
  rfl

private theorem head?_fillTokens (tokens : List String) (values : Entries Value) {c : Char}
    (apart : c ≠ '$') (query : String) (first : query.toList.head? = some c) :
    (fillTokens query tokens values).toList.head? = some c := by
  induction tokens generalizing query with
  | nil => exact first
  | cons name rest ih =>
    refine ih _ (head?_fill _ first ?_ apart)
    rw [tokenText, String.toList_append, String.toList_ofList]
    rfl

private theorem head?_fillId {query placeholder : String} (id : Option String) {c : Char}
    (first : query.toList.head? = some c) (other : placeholder.toList.head? = some '$')
    (apart : c ≠ '$') : (fillId query placeholder id).toList.head? = some c := by
  cases id with
  | none => exact first
  | some id => exact head?_fill _ first other apart

private theorem head?_fillIds {query : String} (viewer record : Option String) {c : Char}
    (first : query.toList.head? = some c) (apart : c ≠ '$') :
    (fillIds query viewer record).toList.head? = some c :=
  head?_fillId record (head?_fillId viewer first rfl apart) rfl apart

/-- There is a preview of a query whose tokens are resolved, unless the query is empty or starts
with a placeholder. -/
theorem preview_ne_empty_iff {query : String} {tokens : List String} {state : Readiness}
    {values : Entries Value} {viewer record : Option String} {c : Char}
    (first : query.toList.head? = some c) (apart : c ≠ '$') :
    preview query tokens state values viewer record ≠ "" ↔
      state = .noTokens ∨ state = .resolved := by
  have filled {q : String} (first : q.toList.head? = some c) : q ≠ "" := by
    rintro rfl
    cases first
  refine ⟨preview_ne_empty, fun known ↦ filled ?_⟩
  rcases known with rfl | rfl
  · exact head?_fillIds viewer record first apart
  · exact head?_fillIds viewer record (head?_fillTokens tokens values apart query first) apart

end TableView.Merge
