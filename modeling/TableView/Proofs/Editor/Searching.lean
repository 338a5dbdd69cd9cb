import TableView.Proofs.Editor.Effect
import TableView.Proofs.Task.Roster

/-!
# Searches for context objects

A session shows what the search of the latest term has found, in a list that is closed when an
object is selected. An answer counts if its term is still the latest one; nothing else tells whether
it is still wanted. So among the searches of the latest term it is the one that was answered last
whose results are shown, and its answer opens the list again even if an object was selected while
the search was under way (`latest_search_shown_iff`).
-/

namespace TableView.Editor

open TableView.Source (ObjectOption)
open TableView.Task (Act Roster)
open TableView.Task.Roster (Run Step)

/-- What is shown of the search for context objects: the term, what was found, and whether the list
of it is open. -/
structure Search where
  term : Option String
  results : List ObjectOption
  shown : Bool

/-- The search of a session. -/
def Session.search (s : Session) : Search :=
  ⟨s.context.searchTerm, s.context.results, s.context.showResults⟩

/-! ### Acts on the search -/

/-- Whether an act starts a search. -/
def StartsSearch : Act machine → Prop
  | .started c => ∃ term, c = Command.searchContextObjects term
  | .answered _ _ _ => False

/-- Whether an act selects a context object. -/
def selects : Act machine → Bool
  | .started (Command.selectContextObject _ _) => true
  | _ => false

/-- What an answer has found and for which term, if it answers a search. -/
def found? : (call : Call) → call.Reply → Option (String × List ObjectOption)
  | .searchObjects term, .ok found => some (term, found)
  | _, _ => none

/-- What was found for a term, if an act answers a search of it. -/
def foundFor (term : String) : Act machine → Option (List ObjectOption)
  | .started _ => none
  | .answered _ call reply => ((found? call reply).filter (·.1 = term)).map Prod.snd

/-- Whether an act belongs to searches and selections: it starts one, or it is the answer to a
search or to a fetch of values. -/
def Browses : Act machine → Prop
  | .started c => (∃ term, c = Command.searchContextObjects term) ∨
      ∃ object label, c = Command.selectContextObject object label
  | .answered _ call _ => (∃ term, call = Call.searchObjects term) ∨
      ∃ object record names, call = Call.values object record names

/-- The search after an act. -/
def Search.after (v : Search) : Act machine → Search
  | .started (Command.searchContextObjects term) => { v with term := some term }
  | .started (Command.selectContextObject _ _) => { v with shown := false }
  | .started _ => v
  | .answered _ call reply => match found? call reply with
    | some (term, found) =>
      if v.term = some term then ⟨v.term, found, !found.isEmpty⟩ else v
    | none => v

variable {x x₀ x₁ y : Roster machine} {a : Act machine} {as : List (Act machine)}

/-! ### One act -/

private theorem Fetched.search_eq {s s' : Session} {w : List Suspension} (h : Fetched s s' w) :
    s'.search = s.search := by
  cases h with
  | unneeded => rfl
  | begun => rfl

private theorem search_resume_search (s : Session) (term : String)
    (reply : (Call.searchObjects term).Reply) (k : Nat) :
    (s.resume (.search term) reply).1.search =
      s.search.after (.answered k (Call.searchObjects term) reply) := by
  cases reply with
  | error f => rfl
  | ok found =>
    simp only [Session.resume, Session.resumeSearch, Search.after, found?]
    by_cases current : s.context.searchTerm = some term
    · rw [if_pos current, if_pos (by exact current)]
      rfl
    · rw [if_neg current, if_neg (by exact current)]

private theorem search_resume_values (s : Session) (ticket : Ticket)
    (reply : Except Failure (Entries Value)) :
    (s.resumeValues ticket reply).1.search = s.search := by
  rw [s.resumeValues_state]
  rfl

private theorem search_step (step : Step x a y) (browses : Browses a) :
    y.state.search = x.state.search.after a := by
  cases step with
  | start s stages c =>
    rcases browses with ⟨term, rfl⟩ | ⟨object, label, rfl⟩
    · rfl
    · exact (Session.fetchIfNeeded_fetched (Session.selectContextObject s object label)).search_eq
  | answer s stages k p hp reply =>
    cases p with
    | search term => exact search_resume_search s term reply k
    | values ticket => exact search_resume_values s ticket reply
    | _ => rcases browses with ⟨_, ⟨⟩⟩ | ⟨_, _, _, ⟨⟩⟩

/-- After acts on the search it is what they make of it, one after another. -/
private theorem search_of_run (run : Run x₁ as y) (browses : ∀ a ∈ as, Browses a) :
    y.state.search = as.foldl Search.after x₁.state.search := by
  let I : List (Act machine) → Roster machine → Prop := fun as y ↦
    y.state.search = as.foldl Search.after x₁.state.search
  refine run.invariant (I := I) browses rfl ?_
  intro as y a z same allowed step
  change z.state.search = (as ++ [a]).foldl Search.after x₁.state.search
  rw [List.foldl_append, List.foldl_cons, List.foldl_nil, ← same]
  exact search_step step allowed

/-! ### Acts after the start of the latest search -/

namespace Search

variable {v : Search} {term : String} {late : List ObjectOption}

private theorem found?_of_foundFor {call : Call} {reply : call.Reply} {k : Nat}
    (h : foundFor term (.answered k call reply) = some late) :
    found? call reply = some (term, late) := by
  obtain ⟨⟨t, found⟩, kept, rfl⟩ := Option.map_eq_some_iff.mp h
  obtain ⟨same, named⟩ := Option.filter_eq_some_iff.mp kept
  cases (of_decide_eq_true named : t = term)
  exact same

/-- The answer to a search of the latest term is shown. -/
private theorem after_of_found (latest : v.term = some term) (h : foundFor term a = some late) :
    v.after a = ⟨some term, late, !late.isEmpty⟩ := by
  cases a with
  | started c => cases h
  | answered k call reply =>
    rw [after, found?_of_foundFor h]
    dsimp only
    rw [if_pos latest, latest]

/-- The latest term stays until another search is started. -/
private theorem term_after (h : ¬ StartsSearch a) : (v.after a).term = v.term := by
  cases a with
  | started c =>
    cases c with
    | searchContextObjects term => exact absurd ⟨term, rfl⟩ h
    | _ => rfl
  | answered k call reply =>
    rw [after]
    split
    · split
      · rfl
      · rfl
    · rfl

private theorem term_foldl_after (h : ∀ a ∈ as, ¬ StartsSearch a) :
    (as.foldl after v).term = v.term := by
  induction as generalizing v with
  | nil => rfl
  | cons a rest ih =>
    rw [List.foldl_cons, ih fun b mem ↦ h b (List.mem_cons_of_mem a mem),
      term_after (h a List.mem_cons_self)]

/-- Any other act leaves what was found, and closes the list if it is a selection. -/
private theorem after_of_not_found (latest : v.term = some term) (h : foundFor term a = none)
    (none : ¬ StartsSearch a) : v.after a = { v with shown := v.shown && !selects a } := by
  cases a with
  | started c =>
    cases c with
    | searchContextObjects term => exact absurd ⟨term, rfl⟩ none
    | selectContextObject object label => simp [after, selects]
    | _ => simp [after, selects]
  | answered k call reply =>
    have open' : (v.shown && !selects (.answered k call reply)) = v.shown := Bool.and_true _
    rw [open', after]
    split
    · next t found answer =>
      -- An answer for the latest term would have been found for it.
      have other : t ≠ term := by
        rintro rfl
        rw [foundFor, answer] at h
        simp at h
      refine if_neg fun current ↦ other ?_
      exact Option.some.inj (current.symm.trans latest)
    · rfl

private theorem foldl_after_of_not_found (latest : v.term = some term)
    (h : ∀ a ∈ as, foundFor term a = none) (none : ∀ a ∈ as, ¬ StartsSearch a) :
    as.foldl after v = { v with shown := v.shown && !as.any selects } := by
  induction as generalizing v with
  | nil => simp
  | cons a rest ih =>
    have first := after_of_not_found latest (h a List.mem_cons_self) (none a List.mem_cons_self)
    have later := ih (v := { v with shown := v.shown && !selects a }) latest
      (fun b mem ↦ h b (List.mem_cons_of_mem a mem))
      fun b mem ↦ none b (List.mem_cons_of_mem a mem)
    rw [List.foldl_cons, first, later, List.any_cons, Bool.not_or, Bool.and_assoc]

end Search

/-! ### The latest search -/

/-- The search of a number waits for its answer, or it has ended with the answer that it got. -/
private def Awaits (k : Nat) (term : String) (as : List (Act machine)) (y : Roster machine) :
    Prop :=
  y.stages[k]? = some (.pending (.search term)) ∨
    ∃ reply : (Call.searchObjects term).Reply,
      .answered k (Call.searchObjects term) reply ∈ as ∧
        y.stages[k]? = some (.finished (reply.map Result.objects))

private theorem resume_search_ended (s : Session) (term : String)
    (reply : (Call.searchObjects term).Reply) :
    (s.resume (.search term) reply).2 = .finished (reply.map Result.objects) := by
  cases reply with
  | error f => rfl
  | ok found => rfl

private theorem awaits_step {k : Nat} {term : String} (awaits : Awaits k term as x)
    (step : Step x a y) : Awaits k term (as ++ [a]) y := by
  rcases awaits with waits | ⟨reply, mem, ended⟩
  · rcases Roster.stage_step step waits with waits | ⟨p, reply, same, rfl, ended⟩
    · exact .inl waits
    · cases same
      refine .inr ⟨reply, List.mem_append_right _ (List.mem_singleton_self _), ended.trans ?_⟩
      exact congrArg some (resume_search_ended x.state term reply)
  · rcases Roster.stage_step step ended with ended | ⟨p, reply, same, -⟩
    · exact .inr ⟨reply, List.mem_append_left _ mem, ended⟩
    · cases same

/-- A search that has ended with what it found was answered with it. -/
private theorem found_of_ended {term : String} {found : List ObjectOption}
    (first : Step x₀ (.started (Command.searchContextObjects term)) x₁) (run : Run x₁ as y)
    (ended : y.stages[x₀.stages.length]? = some (.finished (.ok (Result.objects found)))) :
    ∃ a ∈ as, foundFor term a = some found := by
  let k := x₀.stages.length
  have awaits : Awaits k term as y := by
    refine run.invariant (A := fun _ ↦ True) (I := Awaits k term) (fun _ _ ↦ trivial) ?_ ?_
    · cases first with
      | start s stages => exact .inl List.getElem?_concat_length
    · exact fun _ _ _ _ awaits _ step ↦ awaits_step awaits step
  rcases awaits with waits | ⟨reply, mem, ended'⟩
  · cases Option.some.inj (waits.symm.trans ended)
  · refine ⟨_, mem, ?_⟩
    cases reply with
    | error f => cases Option.some.inj (ended'.symm.trans ended)
    | ok results =>
      cases Option.some.inj (ended'.symm.trans ended)
      simp [foundFor, found?]

/-- The last item of a list for which something holds. -/
private theorem exists_last {α : Type} {p : α → Prop} {l : List α} (h : ∃ a ∈ l, p a) :
    ∃ before a after, l = before ++ a :: after ∧ p a ∧ ∀ b ∈ after, ¬ p b := by
  induction l with
  | nil =>
    obtain ⟨a, mem, -⟩ := h
    cases mem
  | cons c rest ih =>
    by_cases later : ∃ a ∈ rest, p a
    · obtain ⟨before, a, after, rfl, holds, none⟩ := ih later
      exact ⟨c :: before, a, after, rfl, holds, none⟩
    · obtain ⟨a, mem, holds⟩ := h
      rcases List.mem_cons.mp mem with rfl | mem
      · exact ⟨[], a, rest, rfl, holds, fun b inside here ↦ later ⟨b, inside, here⟩⟩
      · exact absurd ⟨a, mem, holds⟩ later

private theorem open_iff (late found : List ObjectOption) (before after : Bool) :
    (late = found ∧ ((!late.isEmpty && !after) = true ↔ found ≠ [] ∧ (before || after) = false)) ↔
      late = found ∧ (found = [] ∨ before = false ∨ after = true) := by
  refine and_congr_right fun same ↦ ?_
  subst same
  cases late with
  | nil => simp
  | cons o rest => cases before <;> cases after <;> simp

/-- When the latest search has ended, what is shown is the answer to the search of its term that was
answered last since, in a list that is open if something was found and no object was selected after
that answer. So it is what the latest search has found, in a list that is open exactly if this is
something and no object was selected since it was started, if and only if that answer has found the
same, and the list is empty, or no object was selected before that answer, or one was after it. -/
theorem latest_search_shown_iff {term : String} {found : List ObjectOption}
    (first : Step x₀ (.started (Command.searchContextObjects term)) x₁) (run : Run x₁ as y)
    (browses : ∀ a ∈ as, Browses a) (last : ∀ a ∈ as, ¬ StartsSearch a)
    (ended : y.stages[x₀.stages.length]? = some (.finished (.ok (Result.objects found)))) :
    ∃ before a after late, as = before ++ a :: after ∧ foundFor term a = some late ∧
      (∀ b ∈ after, foundFor term b = none) ∧
      y.state.search = ⟨some term, late, !late.isEmpty && !after.any selects⟩ ∧
      ((y.state.search.results = found ∧
          (y.state.search.shown = true ↔ found ≠ [] ∧ as.any selects = false)) ↔
        late = found ∧
          (found = [] ∨ before.any selects = false ∨ after.any selects = true)) := by
  have own := found_of_ended first run ended
  obtain ⟨before, a, after, rfl, some, none⟩ :=
    exists_last (p := fun a ↦ (foundFor term a).isSome = true) <| by
      obtain ⟨a, mem, here⟩ := own
      exact ⟨a, mem, Option.isSome_iff_exists.mpr ⟨found, here⟩⟩
  obtain ⟨late, here⟩ := Option.isSome_iff_exists.mp some
  have later : ∀ b ∈ after, foundFor term b = Option.none := fun b mem ↦
    Option.not_isSome_iff_eq_none.mp (none b mem)
  have shown : y.state.search = ⟨Option.some term, late, !late.isEmpty && !after.any selects⟩ := by
    have started : x₁.state.search.term = Option.some term := by
      cases first with
      | start s stages => rfl
    have latest := Search.term_foldl_after (v := x₁.state.search) fun b mem ↦
      last b (List.mem_append_left (a :: after) mem)
    rw [search_of_run run browses, List.foldl_append, List.foldl_cons,
      Search.after_of_found (latest.trans started) here,
      Search.foldl_after_of_not_found rfl later fun b mem ↦
        last b (List.mem_append_right before (List.mem_cons_of_mem a mem))]
  have answer : selects a = false := by
    cases a with
    | started c => cases here
    | answered k call reply => rfl
  refine ⟨before, a, after, late, rfl, here, later, shown, ?_⟩
  rw [shown, List.any_append, List.any_cons, answer, Bool.false_or]
  exact open_iff late found (before.any selects) (after.any selects)

/-- A session on which nothing was started yet. -/
def newSession : Roster machine := .new (Session.initial none)

/-- An object to choose. -/
def accountOption : ObjectOption := ⟨"Account", "Accounts"⟩

/-- The session while an object is searched for. -/
def searchingSession : Roster machine :=
  newSession.start (Command.searchContextObjects "acc")

/-- The session after another object was selected in the meantime. -/
def selectedSession : Roster machine :=
  searchingSession.start (Command.selectContextObject (some "Contact") none)

/-- The session after the object that was searched for has been found. -/
def reopenedSession : Roster machine :=
  selectedSession.answer 0 (.search "acc") (.ok [accountOption])

private theorem waits_selectedSession :
    selectedSession.stages[0]? = some (.pending (.search "acc")) := rfl

/-- The session after yet another object was selected. -/
def settledSession : Roster machine :=
  reopenedSession.start (Command.selectContextObject (some "Lead") none)

/-- The search was under way at the first selection, and was answered before the second one. -/
theorem settledSession_shown :
    settledSession.stages[0]? = some (.finished (.ok (Result.objects [accountOption]))) ∧
      settledSession.state.search.results = [accountOption] ∧
      settledSession.state.search.shown = false := by
  have searching : Run searchingSession [] searchingSession := .nil
  have run := ((searching.start (Command.selectContextObject (some "Contact") none)).answer 0
    (.search "acc") waits_selectedSession (.ok [accountOption])).start
    (Command.selectContextObject (some "Lead") none)
  have both : ∀ a ∈ [.started (Command.selectContextObject (some "Contact") none),
      .answered 0 (Call.searchObjects "acc") (.ok [accountOption]),
      .started (Command.selectContextObject (some "Lead") none)],
      Browses a ∧ ¬ StartsSearch a := by
    intro a mem
    simp only [List.mem_cons, List.not_mem_nil, or_false] at mem
    rcases mem with rfl | rfl | rfl
    · exact ⟨.inr ⟨_, _, rfl⟩, fun ⟨_, h⟩ ↦ nomatch h⟩
    · exact ⟨.inl ⟨_, rfl⟩, id⟩
    · exact ⟨.inr ⟨_, _, rfl⟩, fun ⟨_, h⟩ ↦ nomatch h⟩
  have ended : settledSession.stages[0]? =
      some (.finished (.ok (Result.objects [accountOption]))) := rfl
  obtain ⟨before, a, after, late, split, here, -, -, documented⟩ :=
    latest_search_shown_iff (newSession.step_start _) run (fun a mem ↦ (both a mem).1)
      (fun a mem ↦ (both a mem).2) ended
  -- Only the second act is an answer.
  have answered : late = [accountOption] ∧ after.any selects = true := by
    rcases before with _ | ⟨first, _ | ⟨second, _ | ⟨third, before⟩⟩⟩
    · cases split
      cases here
    · cases split
      cases here
      exact ⟨rfl, rfl⟩
    · cases split
      cases here
    · simp at split
  obtain ⟨results, shown⟩ := documented.mpr ⟨answered.1, .inr (.inr answered.2)⟩
  refine ⟨ended, results, Bool.eq_false_iff.mpr fun closed ↦ ?_⟩
  exact absurd (shown.mp closed).2 (by decide)

/-- A search that is answered after an object was selected opens the list again, and a search that
is answered after a later one of its term replaces what that one has found. -/
theorem exists_list_reopened :
    (∃ y, Run newSession [.started (Command.searchContextObjects "acc"),
        .started (Command.selectContextObject (some "Contact") none),
        .answered 0 (Call.searchObjects "acc") (.ok [accountOption])] y ∧
      y.state.search = ⟨some "acc", [accountOption], true⟩) ∧
    ∃ y, Run newSession [.started (Command.searchContextObjects "acc"),
        .started (Command.searchContextObjects "acc"),
        .answered 1 (Call.searchObjects "acc") (.ok []),
        .answered 0 (Call.searchObjects "acc") (.ok [accountOption])] y ∧
      y.stages[1]? = some (.finished (.ok (Result.objects []))) ∧
      y.state.search = ⟨some "acc", [accountOption], true⟩ := by
  have opened : Run newSession [] newSession := .nil
  have searching := opened.start (Command.searchContextObjects "acc")
  have selected := searching.start (Command.selectContextObject (some "Contact") none)
  have twice := searching.start (Command.searchContextObjects "acc")
  have first := twice.answer 1 (.search "acc") rfl (.ok [])
  exact ⟨⟨_, selected.answer 0 (.search "acc") rfl (.ok [accountOption]), rfl⟩,
    _, first.answer 0 (.search "acc") rfl (.ok [accountOption]), rfl, rfl⟩

end TableView.Editor
