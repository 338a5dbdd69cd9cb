import TableView.Proofs.Editor.Limit
import TableView.Proofs.Editor.Selection
import TableView.Proofs.Merge.Pass

/-!
# Every missing value is on its way

Two things hold after every run of a session. The merge tokens are those of the query, unless the
fields of its object are still to come, or a row limit was too long for the query to be written when
they were looked for (`Followed`). And when a value is missing, there is an error
to show, or a fetch is under way that is current and asks for all tokens, or a draft was taken over
and its values were not ensured yet (`Covered`). A reply that is discarded breaks neither, as it
did not count.

So nothing is missing once nothing is suspended, as long as all row limits can be written
(`complete_of_quiescent`); an edit that comes to a halt because one cannot leaves the tokens of the
query before (`exists_tokens_left_behind`). A query may be previewed while values are missing, for
these reasons or while its values are on their way, and for no others (`previewed_complete_iff`).
-/

namespace TableView.Editor

open TableView.Number (digitCount maxIntegerDigits)
open TableView.Task (Event Run Scene mem_of_mem_around mem_of_mem_beside mem_of_mem_between)

/-- Whether the values of a draft are owed after an event, if they were or were not before. -/
def owedAfter (owed : Bool) : Event machine → Bool
  | .started (Command.applyDraft _) => true
  | .started Command.ensureValues => false
  | _ => owed

/-- Whether a draft was taken over and its values were not ensured since. -/
def owed (es : List (Event machine)) : Bool := es.foldl owedAfter false

theorem owed_snoc (es : List (Event machine)) (e : Event machine) :
    owed (es ++ [e]) = owedAfter (owed es) e := by
  simp only [owed, List.foldl_append, List.foldl_cons, List.foldl_nil]

private theorem owedAfter_cases (e : Event machine) :
    e = .started Command.ensureValues ∨ (∃ config, e = .started (Command.applyDraft config)) ∨
      ∀ b, owedAfter b e = b := by
  cases e with
  | resumed p reply => exact .inr (.inr fun _ ↦ rfl)
  | started c =>
    cases c with
    | ensureValues => exact .inl rfl
    | applyDraft config => exact .inr (.inl ⟨config, rfl⟩)
    | _ => exact .inr (.inr fun _ ↦ rfl)

private theorem unensured_of_owed (es : List (Event machine)) (b : Bool)
    (h : es.foldl owedAfter b = true) :
    (b = true ∧ .started Command.ensureValues ∉ es) ∨
      ∃ before config after, es = before ++ .started (Command.applyDraft config) :: after ∧
        .started Command.ensureValues ∉ after := by
  induction es generalizing b with
  | nil => exact .inl ⟨h, List.not_mem_nil⟩
  | cons e rest ih =>
    rcases ih (owedAfter b e) h with ⟨hb, hn⟩ | ⟨before, config, after, rfl, hn⟩
    · rcases owedAfter_cases e with rfl | ⟨config, rfl⟩ | hs
      · cases hb
      · exact .inr ⟨[], config, rest, rfl, hn⟩
      · rw [hs] at hb
        refine .inl ⟨hb, fun hm ↦ ?_⟩
        rcases List.mem_cons.mp hm with he | hr
        · subst he
          cases hs true
        · exact hn hr
    · exact .inr ⟨e :: before, config, after, rfl, hn⟩

/-- Nothing is owed if the values of every draft that was taken over were ensured later on. -/
theorem owed_eq_false (es : List (Event machine))
    (ensured : ∀ before config after, es = before ++ .started (Command.applyDraft config) :: after →
      .started Command.ensureValues ∈ after) : owed es = false := by
  rw [Bool.eq_false_iff]
  intro h
  rcases unensured_of_owed es false h with ⟨hb, -⟩ | ⟨before, config, after, he, hn⟩
  · cases hb
  · exact hn (ensured before config after he)

/-- The fields of an object were asked for, and that failed for another reason than discovery. -/
def Broken (es : List (Event machine)) (object : String) : Prop :=
  ∃ f, Session.isDiscovery f = false ∧ .resumed (Suspension.fields object) (.error f) ∈ es

/-- The fields of the object of the draft are still to come or could not be had, or a row limit was
too long for a query to be written. -/
def Unscannable (es : List (Event machine)) (x : Scene machine) : Prop :=
  .fields x.state.draft.object ∈ x.waiting ∨ Broken es x.state.draft.object ∨ Overlong es

/-- The merge tokens are those of the draft, if nothing stands in the way of it. -/
def Followed (es : List (Event machine)) (x : Scene machine) : Prop :=
  x.state.Scanned ∨ Unscannable es x

/-- If a value is missing, there is an error, or all values are being fetched, or nothing was
fetched for a draft yet. -/
def Covered (owed : Bool) (x : Scene machine) : Prop :=
  x.state.resolution.needsFetch = true →
    x.state.resolution.error.getD "" ≠ "" ∨
      (∃ t, .values t ∈ x.waiting ∧ x.state.resolution.isCurrent t = true) ∨
        (owed = true ∧ x.state.resolution.values = [])

/-! ### Steps -/

variable {es : List (Event machine)} {x y : Scene machine} {o : Bool}

/-- What is covered stays so while the resolution is the same and its fetch goes on. -/
private theorem Covered.of_same (h : Covered o x) (same : y.state.resolution = x.state.resolution)
    (stay : ∀ t, x.state.resolution.isCurrent t = true → .values t ∈ x.waiting →
      .values t ∈ y.waiting) : Covered o y := by
  intro needed
  rw [same] at needed ⊢
  rcases h needed with he | ⟨t, ht, hc⟩ | hw
  · exact .inl he
  · exact .inr (.inl ⟨t, stay t hc ht, hc⟩)
  · exact .inr (.inr hw)

private theorem Covered.of_effect {s s' : Session} {w : List Suspension} (effect : Effect s s' w)
    (hx : x.state = s) (hy : y.state = s') (h : Covered o x)
    (stay : ∀ t, .values t ∈ x.waiting → .values t ∈ y.waiting) (new : ∀ p ∈ w, p ∈ y.waiting) :
    Covered o y := by
  subst hx hy
  rcases effect.covered with same | fetched
  · exact h.of_same same fun t _ ht ↦ stay t ht
  · intro needed
    obtain ⟨t, ht, hc⟩ := fetched needed
    exact .inr (.inl ⟨t, new _ ht, hc⟩)

private theorem covered_start (s : Session) (before after : List Suspension) (c : Command)
    (h : Covered o ⟨s, before ++ after⟩) :
    Covered (owedAfter o (.started c))
      ⟨(s.start c).1, before ++ (s.start c).2.waiting ++ after⟩ := by
  rcases owedAfter_cases (.started c) with ⟨⟨⟩⟩ | ⟨config, ⟨⟨⟩⟩⟩ | hc
  · intro needed
    obtain ⟨t, ht, hc⟩ := s.fetchIfNeeded_fetched.covered needed
    exact .inr (.inl ⟨t, mem_of_mem_between _ _ ht, hc⟩)
  · intro _
    exact .inr (.inr ⟨rfl, (s.applyDraft_renewed config).1.blank.1⟩)
  · have plain : ∀ config, c ≠ .applyDraft config := by
      rintro config rfl
      cases hc false
    rw [hc]
    refine h.of_effect (s.start_effect c plain) rfl rfl ?_ ?_
    · exact fun t ht ↦ mem_of_mem_around _ ht
    · exact fun p hp ↦ mem_of_mem_between _ _ hp

private theorem covered_values (s : Session) (before after : List Suspension) (t : Ticket)
    (reply : Except Failure (Entries Value))
    (h : Covered o ⟨s, before ++ .values t :: after⟩) :
    Covered o
      ⟨(s.resumeValues t reply).1, before ++ (s.resumeValues t reply).2.waiting ++ after⟩ := by
  rw [s.resumeValues_state t reply]
  by_cases hc : s.resolution.isCurrent t = true
  · intro needed
    rcases Resolution.settle_of_current_complete _ t reply hc with he | hn
    · exact .inl he
    · cases hn.symm.trans needed
  · -- The fetch that covers is current, so it is another one, and goes on.
    refine h.of_same ?_ fun u hu ht ↦ mem_of_mem_beside _ ht ?_
    · exact Resolution.settle_of_stale _ t reply (Bool.eq_false_iff.mpr hc)
    · rintro ⟨⟩
      exact hc hu

private theorem covered_resume (s : Session) (before after : List Suspension) (p : Suspension)
    (reply : p.call.Reply) (h : Covered o ⟨s, before ++ p :: after⟩) :
    Covered o ⟨(s.resume p reply).1, before ++ (s.resume p reply).2.waiting ++ after⟩ := by
  by_cases hp : ∃ t, p = .values t
  · obtain ⟨t, rfl⟩ := hp
    exact covered_values s before after t reply h
  · have other : ∀ t, p ≠ .values t := fun t ht ↦ hp ⟨t, ht⟩
    refine h.of_effect (s.resume_effect p reply other) rfl rfl ?_ ?_
    · exact fun t ht ↦ mem_of_mem_beside _ ht (other t).symm
    · exact fun q hq ↦ mem_of_mem_between _ _ hq

/-- After every run, what is missing is covered. -/
theorem covered_of_run (viewer : Option String) (run : Run (opening viewer) es x) :
    Covered (owed es) x := by
  refine run.invariant (A := fun _ ↦ True) (I := fun es y ↦ Covered (owed es) y)
    (fun _ _ ↦ trivial) ?_ ?_
  · intro needed
    cases needed
  · intro es y e z h _ step
    rw [owed_snoc]
    cases step with
    | start s before after c => exact covered_start s before after c h
    | resume s before after p reply => exact covered_resume s before after p reply h

/-! ### Tokens -/

private theorem Followed.of_scan {fs : List (Event machine)} (h : Followed es x)
    (scan : y.state.Scanned ∨
      (y.state.draft.object = x.state.draft.object ∧ (x.state.Scanned → y.state.Scanned)) ∨
        .fields y.state.draft.object ∈ y.waiting ∨ y.state.Unwritten)
    (stay : .fields x.state.draft.object ∈ x.waiting → .fields x.state.draft.object ∈ y.waiting)
    (more : ∀ e ∈ es, e ∈ fs) (halted : y.state.Unwritten → Overlong fs) : Followed fs y := by
  rcases scan with hs | ⟨ho, hs⟩ | hw | hu
  · exact .inl hs
  · rw [Followed, Unscannable, ho]
    rcases h with hx | hx | ⟨f, hf, he⟩ | long
    · exact .inl (hs hx)
    · exact .inr (.inl (stay hx))
    · exact .inr (.inr (.inl ⟨f, hf, more _ he⟩))
    · exact .inr (.inr (.inr (long.mono more)))
  · exact .inr (.inl hw)
  · exact .inr (.inr (.inr (halted hu)))

private theorem followed_start (s : Session) (before after : List Suspension) (c : Command)
    (h : Followed es ⟨s, before ++ after⟩)
    (halted : (s.start c).1.Unwritten → Overlong (es ++ [.started c])) :
    Followed (es ++ [.started c])
      ⟨(s.start c).1, before ++ (s.start c).2.waiting ++ after⟩ := by
  refine h.of_scan ?_ ?_ (fun e he ↦ List.mem_append_left _ he) halted
  · by_cases hc : ∃ config, c = .applyDraft config
    · obtain ⟨config, rfl⟩ := hc
      rcases (s.applyDraft_renewed config).1.scan with hs | hu
      · exact .inl hs
      · exact .inr (.inr (.inr hu))
    · rcases (s.start_effect c fun config he ↦ hc ⟨config, he⟩).scan with hs | hs | hw | hu
      · exact .inl hs
      · exact .inr (.inl hs)
      · exact .inr (.inr (.inl (mem_of_mem_between _ _ hw)))
      · exact .inr (.inr (.inr hu))
  · exact fun hw ↦ mem_of_mem_around _ hw

private theorem followed_values (s : Session) (before after : List Suspension) (t : Ticket)
    (reply : Except Failure (Entries Value)) {fs : List (Event machine)}
    (h : Followed es ⟨s, before ++ .values t :: after⟩) (more : ∀ e ∈ es, e ∈ fs)
    (halted : (s.resumeValues t reply).1.Unwritten → Overlong fs) :
    Followed fs
      ⟨(s.resumeValues t reply).1, before ++ (s.resumeValues t reply).2.waiting ++ after⟩ := by
  rw [s.resumeValues_state t reply] at halted ⊢
  refine h.of_scan (.inr (.inl ⟨rfl, fun hs name ↦ ?_⟩)) ?_ more halted
  · change name ∈ (s.resolution.settle t reply).tokens ↔ name ∈ s.mergeTokens
    rw [Resolution.settle_tokens]
    exact hs name
  · exact fun hw ↦ mem_of_mem_beside _ hw Suspension.noConfusion

/-- Any reply but values, and but the fields of the object that is selected. -/
private theorem followed_other (s : Session) (before after : List Suspension) (p : Suspension)
    (reply : p.call.Reply) {fs : List (Event machine)} (h : Followed es ⟨s, before ++ p :: after⟩)
    (values : ∀ t, p ≠ .values t) (fields : p ≠ .fields s.draft.object)
    (more : ∀ e ∈ es, e ∈ fs) (halted : (s.resume p reply).1.Unwritten → Overlong fs) :
    Followed fs ⟨(s.resume p reply).1, before ++ (s.resume p reply).2.waiting ++ after⟩ := by
  refine h.of_scan ?_ (fun hw ↦ mem_of_mem_beside _ hw fields.symm) more halted
  rcases (s.resume_effect p reply values).scan with hs | hs | hw | hu
  · exact .inl hs
  · exact .inr (.inl hs)
  · exact .inr (.inr (.inl (mem_of_mem_between _ _ hw)))
  · exact .inr (.inr (.inr hu))

private theorem followed_fields (s : Session) (before after : List Suspension)
    (reply : Except Failure (List DiscoveredField))
    (halted : (s.resumeFields s.draft.object reply).1.Unwritten →
      Overlong (es ++ [.resumed (Suspension.fields s.draft.object) reply])) :
    Followed (es ++ [.resumed (Suspension.fields s.draft.object) reply])
      ⟨(s.resumeFields s.draft.object reply).1,
        before ++ (s.resumeFields s.draft.object reply).2.waiting ++ after⟩ := by
  have scanned (discovery : ∀ f, reply = .error f → Session.isDiscovery f = true) :
      Followed (es ++ [.resumed (Suspension.fields s.draft.object) reply])
        ⟨(s.resumeFields s.draft.object reply).1,
          before ++ (s.resumeFields s.draft.object reply).2.waiting ++ after⟩ :=
    (s.resumeFields_scan reply discovery).imp_right fun hu ↦ .inr (.inr (halted hu))
  cases reply with
  | ok found => exact scanned fun f hf ↦ nomatch hf
  | error f =>
    cases hd : Session.isDiscovery f with
    | true =>
      refine scanned fun g hg ↦ ?_
      rwa [← Except.error.inj hg]
    | false =>
      have ho : (s.resumeFields s.draft.object (.error f)).1.draft.object = s.draft.object := by
        simp only [Session.resumeFields, Session.discovered, hd]
        rfl
      refine .inr (.inr (.inl ⟨f, hd, List.mem_append_right _ ?_⟩))
      rw [ho]
      exact List.mem_singleton_self _

private theorem followed_resume (s : Session) (before after : List Suspension) (p : Suspension)
    (reply : p.call.Reply) (h : Followed es ⟨s, before ++ p :: after⟩)
    (halted : (s.resume p reply).1.Unwritten → Overlong (es ++ [.resumed p reply])) :
    Followed (es ++ [.resumed p reply])
      ⟨(s.resume p reply).1, before ++ (s.resume p reply).2.waiting ++ after⟩ := by
  have more : ∀ e ∈ es, e ∈ es ++ [Event.resumed p reply] := fun e he ↦ List.mem_append_left _ he
  by_cases hv : ∃ t, p = .values t
  · obtain ⟨t, rfl⟩ := hv
    exact followed_values s before after t reply h more halted
  · by_cases hf : p = .fields s.draft.object
    · subst hf
      exact followed_fields s before after reply halted
    · exact followed_other s before after p reply h (fun t ht ↦ hv ⟨t, ht⟩) hf more halted

/-- After every run, the merge tokens follow the draft, unless something stands in the way. -/
theorem followed_of_run (viewer : Option String) (run : Run (opening viewer) es x) :
    Followed es x := by
  induction run with
  | nil => exact .inl fun name ↦ Iff.rfl
  | snoc run step ih =>
    have halted : ∀ f, Session.query _ = .error f → Overlong _ := fun f hu ↦
      (exists_query_of_run viewer (.snoc run step)).resolve_left fun ⟨query, hq⟩ ↦
        nomatch hq.symm.trans hu
    cases step with
    | start s before after c => exact followed_start s before after c ih fun ⟨f, hu⟩ ↦ halted f hu
    | resume s before after p reply =>
      exact followed_resume s before after p reply ih fun ⟨f, hu⟩ ↦ halted f hu

/-! ### Nothing suspended -/

/-- Whether fields are not to be had only when discovery fails. Other calls may end in any way. -/
def DiscoveryOnly : (c : Call) → c.Reply → Prop
  | .fields _, reply => ∀ f, reply = .error f → Session.isDiscovery f = true
  | _, _ => True

/-- When nothing is suspended any more, and no row limit was too long, there is a query, the merge
tokens are those of the query, and if a record is selected then there is an error to show or every
token has a value. -/
theorem complete_of_quiescent (viewer : Option String) (run : Run (opening viewer) es x)
    (discovery : ∀ e ∈ es, e.Obeys DiscoveryOnly)
    (ensured : ∀ before config after, es = before ++ .started (Command.applyDraft config) :: after →
      .started Command.ensureValues ∈ after)
    (short : ¬ Overlong es) (quiescent : x.waiting = []) :
    ∃ query, x.state.query = .ok query ∧
      (∀ name, name ∈ x.state.resolution.tokens ↔ name ∈ Merge.tokens query) ∧
      (Merge.tokens query ≠ [] → x.state.resolution.Selected →
        x.state.resolution.readiness = .failed ∨
          (x.state.resolution.needsFetch = false ∧
            ∀ name ∈ x.state.resolution.tokens, x.state.resolution.values.has name = true)) := by
  obtain ⟨query, hq⟩ := (exists_query_of_run viewer run).resolve_right short
  have scanned (name : String) : name ∈ x.state.resolution.tokens ↔ name ∈ Merge.tokens query := by
    rw [Session.mem_tokens_query hq]
    rcases followed_of_run viewer run with hs | hw | ⟨f, hf, he⟩ | long
    · exact hs name
    · rw [quiescent] at hw
      cases hw
    · have hd : Session.isDiscovery f = true := discovery _ he f rfl
      rw [hf] at hd
      cases hd
    · exact absurd long short
  refine ⟨query, hq, scanned, fun hq selected ↦ ?_⟩
  cases needed : x.state.resolution.needsFetch with
  | false =>
    exact .inr ⟨rfl, Resolution.has_of_needsFetch_eq_false _ selected needed⟩
  | true =>
    obtain ⟨name, hn⟩ := List.exists_mem_of_ne_nil _ hq
    have ht : x.state.resolution.tokens ≠ [] := List.ne_nil_of_mem ((scanned name).mpr hn)
    rcases covered_of_run viewer run needed with he | ⟨t, hw, -⟩ | ⟨ho, -⟩
    · exact .inl ((Resolution.readiness_eq_failed_iff _).mpr ⟨ht, he⟩)
    · rw [quiescent] at hw
      cases hw
    · rw [owed_eq_false es ensured] at ho
      cases ho

/-- The first draft is ensured at once, and no other one is taken over. -/
private theorem ensured_of_cons (config : Config) (rest : List (Event machine))
    (single : ∀ other, .started (Command.applyDraft other) ∉ rest)
    (before : List (Event machine)) (other : Config) (after : List (Event machine))
    (h : .started (Command.applyDraft config) :: .started Command.ensureValues :: rest =
      before ++ .started (Command.applyDraft other) :: after) :
    .started Command.ensureValues ∈ after := by
  cases before with
  | nil =>
    rw [← (List.cons.inj h).2]
    exact List.mem_cons_self
  | cons first before =>
    have later : .started (Command.applyDraft other) ∈
        .started Command.ensureValues :: rest := by
      rw [(List.cons.inj h).2]
      exact List.mem_append_right _ List.mem_cons_self
    rcases List.mem_cons.mp later with he | hr
    · cases he
    · exact absurd hr (single other)

/-- The scene after another record was selected while the values of the first one were being
fetched, whose reply was then discarded, and the values of the second one have come. -/
def movedScene : Scene machine :=
  let fetch (record : String) : Suspension := .values ⟨some "Account", record, ["Name"]⟩
  let reply : Except Failure (Entries Value) := .ok [("Name", .text "Acme")]
  ((((contactScene "WHERE Name = $record.Name").start .ensureValues).start
    (.selectContextRecord (some "001B"))).resume [] [fetch "001B"] (fetch "001A") reply).resume
      [] [] (fetch "001B") reply

private theorem run_movedScene : ∃ rest,
    Run (opening none)
        (.started (.applyDraft (contactDraft "WHERE Name = $record.Name")) ::
          .started .ensureValues :: rest) movedScene ∧
      (∀ e ∈ rest, e.Obeys DiscoveryOnly) ∧ (∀ e ∈ rest, limit? e = none) ∧
        ∀ other, .started (Command.applyDraft other) ∉ rest := by
  let fetch (record : String) : Suspension := .values ⟨some "Account", record, ["Name"]⟩
  let reply : Except Failure (Entries Value) := .ok [("Name", .text "Acme")]
  have run : Run (opening none) _ _ :=
    ((((run_contactScene "WHERE Name = $record.Name").start .ensureValues).start
      (.selectContextRecord (some "001B"))).resume [] [fetch "001B"] (fetch "001A") rfl
        reply).resume [] [] (fetch "001B") rfl reply
  refine ⟨[.started (.selectContextRecord (some "001B")), .resumed (fetch "001A") reply,
    .resumed (fetch "001B") reply], run, ?_, ?_, fun other h ↦ ?_⟩
  · simp only [List.mem_cons, List.not_mem_nil, or_false, forall_eq_or_imp, forall_eq]
    exact ⟨trivial, trivial, trivial⟩
  · simp only [List.mem_cons, List.not_mem_nil, or_false, forall_eq_or_imp, forall_eq]
    exact ⟨rfl, rfl, rfl⟩
  · simp only [List.mem_cons, List.not_mem_nil, or_false] at h
    rcases h with he | he | he
    · cases he
    · cases he
    · cases he

theorem movedScene_complete :
    movedScene.state.query = .ok "SELECT Id FROM Contact WHERE Name = $record.Name LIMIT 10" ∧
      movedScene.state.resolution.tokens = ["Name"] ∧
        movedScene.state.resolution.record = some "001B" ∧
          movedScene.state.resolution.needsFetch = false := by
  obtain ⟨rest, run, discovery, unlimited, single⟩ := run_movedScene
  have written : movedScene.state.query =
      .ok "SELECT Id FROM Contact WHERE Name = $record.Name LIMIT 10" := rfl
  have selected : movedScene.state.resolution.Selected := ⟨"001B", rfl⟩
  have complete := complete_of_quiescent none run ?_ (ensured_of_cons _ rest single) ?_ rfl
  · obtain ⟨query, hq, -, complete⟩ := complete
    rw [← Except.ok.inj (written.symm.trans hq)] at complete
    refine ⟨written, rfl, rfl, ?_⟩
    have tokens : Merge.tokens
        "SELECT Id FROM Contact WHERE Name = $record.Name LIMIT 10" ≠ [] := by
      rw [Merge.tokens_ofList]
      decide +kernel
    rcases complete tokens selected with hf | ⟨hn, -⟩
    · cases hf
    · exact hn
  · simp only [List.mem_cons, forall_eq_or_imp]
    exact ⟨trivial, trivial, discovery⟩
  · rw [not_overlong_iff]
    simp only [List.mem_cons, forall_eq_or_imp]
    refine ⟨?_, nofun, fun e mem n brought ↦ nomatch (unlimited e mem).symm.trans brought⟩
    rintro n ⟨⟩
    decide +kernel

/-! ### A filter that came to a halt -/

/-- A row limit of one digit more than an integer in text may have. -/
@[irreducible]
def overlongLimit : Nat := Nat.pow 10 4300

/-- The scene after contacts were selected, for which there is one field. -/
def contactsScene : Scene machine :=
  ((opening none).start (.selectObject (some "Contact"))).resume [] [] (.fields "Contact")
    (.ok [⟨"Id", "Id"⟩])

/-- The scene after a filter was set under that row limit, and another row limit after it. -/
def haltedScene : Scene machine :=
  ((contactsScene.start (.setRowLimit (.int overlongLimit))).start
    (.setFilter (some "WHERE Name = $record.Name"))).start (.setRowLimit (.int 100))

/-- The filter is taken over, and no more than that. -/
private theorem haltedScene_eq : haltedScene =
    ⟨{ contactsScene.state with draft := { Session.draft contactsScene.state with
      filter := "WHERE Name = $record.Name", limit := 100 } }, []⟩ := by
  let limited : Session := { contactsScene.state with
    draft := { Session.draft contactsScene.state with limit := overlongLimit } }
  let filtered : Session := { limited with
    draft := { limited.draft with filter := "WHERE Name = $record.Name" } }
  have positive : 0 < overlongLimit := by decide +kernel
  have long : maxIntegerDigits < digitCount overlongLimit := by decide +kernel
  have limit : contactsScene.start (.setRowLimit (.int overlongLimit)) = ⟨limited, []⟩ := by
    have given := Session.setRowLimit_natCast contactsScene.state positive
    exact congrArg (fun r ↦ (⟨(Session.conclude r).1, (Session.conclude r).2.waiting⟩ :
      Scene machine)) given
  have filter : Scene.start (M := machine) ⟨limited, []⟩
      (.setFilter (some "WHERE Name = $record.Name")) = ⟨filtered, []⟩ := by
    have halted : filtered.rescanAndFetch = filtered.fail (.badValue Number.tooManyDigits) :=
      Session.rescanAndFetch_of_error (Session.query_of_overlong rfl long)
    exact congrArg (fun r ↦ (⟨r.1, r.2.waiting⟩ : Scene machine)) halted
  rw [haltedScene, limit, filter]
  rfl

/-- The filter has a token that was not looked for, as the query could not be written then. -/
theorem exists_tokens_left_behind : ∃ (es : List (Event machine)) (x : Scene machine),
    Run (opening none) es x ∧ (∀ e ∈ es, e.Obeys DiscoveryOnly) ∧
      (∀ config, .started (Command.applyDraft config) ∉ es) ∧ x.waiting = [] ∧
      x.state.query = .ok "SELECT Id FROM Contact WHERE Name = $record.Name LIMIT 100" ∧
      x.state.resolution.tokens = [] ∧
      Merge.tokens "SELECT Id FROM Contact WHERE Name = $record.Name LIMIT 100" = ["Name"] := by
  have opened : Run (opening none) [] (opening none) := .nil
  have run : Run (opening none) _ haltedScene :=
    ((((opened.start (.selectObject (some "Contact"))).resume [] [] (.fields "Contact") rfl
      (.ok [⟨"Id", "Id"⟩])).start (.setRowLimit (.int overlongLimit))).start
        (.setFilter (some "WHERE Name = $record.Name"))).start (.setRowLimit (.int 100))
  refine ⟨_, haltedScene, run, ?_, fun config h ↦ ?_, ?_, ?_, ?_, ?_⟩
  · simp only [List.nil_append, List.cons_append, List.mem_cons, List.not_mem_nil, or_false,
      forall_eq_or_imp, forall_eq]
    exact ⟨trivial, nofun, trivial, trivial, trivial⟩
  · simp only [List.nil_append, List.cons_append, List.mem_cons, List.not_mem_nil,
      or_false] at h
    rcases h with he | he | he | he | he
    · cases he
    · cases he
    · cases he
    · cases he
    · cases he
  · rw [haltedScene_eq]
  · rw [haltedScene_eq]
    rfl
  · rw [haltedScene_eq]
    rfl
  · rw [Merge.tokens_ofList]
    decide +kernel

/-! ### Previews -/

/-- All tokens are being fetched, and one of the query has no value. -/
def Filling (query : String) (x : Scene machine) : Prop :=
  (∃ t, .values t ∈ x.waiting ∧ x.state.resolution.isCurrent t = true) ∧
    ∃ name ∈ Merge.tokens query,
      name ∈ x.state.resolution.tokens ∧ x.state.resolution.values.has name = false

/-- A token of the query was not looked for and has no value, and there is a reason for it: the
fields of the selected object are still to come or could not be had, or a row limit was too long. -/
def Unscanned (query : String) (es : List (Event machine)) (x : Scene machine) : Prop :=
  Unscannable es x ∧
    ∃ name ∈ Merge.tokens query,
      name ∉ x.state.resolution.tokens ∧ x.state.resolution.values.has name = false

variable {query text : String}

private theorem resolved_of_previewed {s : Session} (shown : s.preview = .ok text)
    (filled : text ≠ "") (tokens : s.resolution.tokens ≠ []) :
    s.resolution.readiness = .resolved := by
  cases hq : s.query with
  | error f =>
    rw [Session.preview, hq] at shown
    cases shown
  | ok query =>
    rw [Session.preview_of_query hq] at shown
    cases shown
    rcases Merge.preview_ne_empty filled with hr | hr
    · exact absurd ((Resolution.readiness_eq_noTokens_iff _).mp hr) tokens
    · exact hr

/-- A preview is complete, every token of the query having a value, unless one is filled in before
its value has come, or was not looked for because the fields of the object have not come or because
a row limit was too long. -/
theorem previewed_complete_iff (viewer : Option String) (run : Run (opening viewer) es x)
    (written : x.state.query = .ok query) (shown : x.state.preview = .ok text)
    (filled : text ≠ "") :
    (∀ name ∈ Merge.tokens query, x.state.resolution.values.has name = true) ↔
      ¬ Filling query x ∧ ¬ Unscanned query es x := by
  constructor
  · intro complete
    constructor
    · rintro ⟨-, name, hq, -, hv⟩
      cases hv.symm.trans (complete name hq)
    · rintro ⟨-, name, hq, -, hv⟩
      cases hv.symm.trans (complete name hq)
  · intro ⟨filling, unscanned⟩ name hq
    cases hv : x.state.resolution.values.has name with
    | true => rfl
    | false =>
      -- A token that was looked for is covered by a fetch, as there are values and no error.
      by_cases ht : name ∈ x.state.resolution.tokens
      · obtain ⟨-, noError, selected, values⟩ := (Resolution.readiness_eq_resolved_iff _).mp
          (resolved_of_previewed shown filled (List.ne_nil_of_mem ht))
        have needed : x.state.resolution.needsFetch = true :=
          (Resolution.needsFetch_iff _).mpr ⟨selected, name, ht, hv⟩
        rcases covered_of_run viewer run needed with he | fetch | ⟨-, hb⟩
        · exact absurd noError he
        · exact absurd ⟨fetch, name, hq, ht, hv⟩ filling
        · exact absurd hb values
      · rcases followed_of_run viewer run with hs | unscannable
        · exact absurd ((hs name).mpr ((Session.mem_tokens_query written name).mp hq)) ht
        · exact absurd ⟨unscannable, name, hq, ht, hv⟩ unscanned

/-! ### A token that is not filled in yet -/

/-- The reply to the fetch for a draft that looks for the name of its account. -/
private def nameReply : Except Failure (Entries Value) := .ok [("Name", .text "Acme")]

/-- The fetch for such a draft. -/
private def nameFetch : Suspension := .values ⟨some "Account", "001A", ["Name"]⟩

/-- The scene after the values of such a draft were ensured and have come. -/
def loadedScene : Scene machine :=
  ((contactScene "WHERE Name = $record.Name").start .ensureValues).resume [] [] nameFetch nameReply

private theorem run_loadedScene :
    Run (opening none)
      [.started (.applyDraft (contactDraft "WHERE Name = $record.Name")), .started .ensureValues,
        .resumed nameFetch nameReply] loadedScene := by
  have run : Run (opening none) _ _ :=
    ((run_contactScene "WHERE Name = $record.Name").start .ensureValues).resume [] [] nameFetch rfl
      nameReply
  exact run

theorem loadedScene_previewed :
    loadedScene.state.query = .ok "SELECT Id FROM Contact WHERE Name = $record.Name LIMIT 10" ∧
      loadedScene.state.preview = .ok "SELECT Id FROM Contact WHERE Name = 'Acme' LIMIT 10" ∧
      ∀ name ∈ Merge.tokens "SELECT Id FROM Contact WHERE Name = $record.Name LIMIT 10",
        loadedScene.state.resolution.values.has name = true := by
  have written : loadedScene.state.query =
      .ok "SELECT Id FROM Contact WHERE Name = $record.Name LIMIT 10" := rfl
  have shown : loadedScene.state.preview =
      .ok "SELECT Id FROM Contact WHERE Name = 'Acme' LIMIT 10" := rfl
  refine ⟨written, shown,
    (previewed_complete_iff none run_loadedScene written shown (by decide)).mpr ⟨?_, ?_⟩⟩
  · rintro ⟨⟨t, ht, -⟩, -⟩
    cases ht
  · rintro ⟨-, name, hq, ht, -⟩
    exact ht hq

/-- The scene after a second token was added to the filter of such a draft. -/
private def widenedScene : Scene machine :=
  loadedScene.start
    (.setFilter (some "WHERE Name = $record.Name AND Industry = $record.Industry"))

/-- The query of the draft then. -/
def widenedQuery : String :=
  "SELECT Id FROM Contact WHERE Name = $record.Name AND Industry = $record.Industry LIMIT 10"

/-- While the values for a second token are being fetched, the preview has null in its place. -/
theorem exists_previewed_incomplete : ∃ (es : List (Event machine)) (x : Scene machine),
    Run (opening none) es x ∧ x.state.query = .ok widenedQuery ∧
      x.state.preview =
        .ok "SELECT Id FROM Contact WHERE Name = 'Acme' AND Industry = NULL LIMIT 10" ∧
      "Industry" ∈ Merge.tokens widenedQuery ∧
        x.state.resolution.values.has "Industry" = false := by
  have run : Run (opening none) _ widenedScene := run_loadedScene.start _
  have written : widenedScene.state.query = .ok widenedQuery := rfl
  have tokens : Merge.tokens widenedQuery = ["Name", "Industry"] := by
    rw [widenedQuery, Merge.tokens_ofList]
    decide +kernel
  have resolution : widenedScene.state.resolution =
      ⟨Merge.tokens widenedQuery, some "Account", some "001A", [("Name", .text "Acme")], none⟩ :=
    rfl
  have filled : Merge.preview widenedQuery ["Name", "Industry"] .resolved
      [("Name", .text "Acme")] none (some "001A") =
        "SELECT Id FROM Contact WHERE Name = 'Acme' AND Industry = NULL LIMIT 10" := by
    refine String.toList_inj.mp ?_
    rw [Merge.toList_preview, widenedQuery, String.toList_ofList, String.toList_ofList]
    decide +kernel
  rw [tokens] at resolution
  refine ⟨_, widenedScene, run, written, ?_, ?_, ?_⟩
  · rw [Session.preview_of_query written, resolution]
    exact congrArg Except.ok filled
  · rw [tokens]
    exact List.mem_cons_of_mem _ List.mem_cons_self
  · rw [resolution]
    rfl

end TableView.Editor
