import TableView.Proofs.Api.Recorded

/-!
# The kind of error that the log keeps

A record names a kind of error exactly if its status says that the request was refused, with one
exception: a request that leads nowhere, because its path or its method is unknown, is refused
without a kind. All other refusals have one, and no action answers with the status of an error
(`ofAction_perform`). Where the operation of an action fails with an error, the action is refused
with it, whether the error is translated or let through (`perform_of_fails`); so the record has the
kind and the status of the error (`errorType_of_recorded`).
-/

namespace TableView

theorem Family.status_ge (f : Family) : 400 ≤ f.status := by
  cases f <;> decide

namespace Api

/-! ### Refusals -/

namespace Refusal

/-- Whether the request leads nowhere. -/
def isRouting : Refusal → Bool
  | unknownPath | wrongMethod => true
  | _ => false

theorem errorType_of_routing {refusal : Refusal} (h : refusal.isRouting = true) :
    refusal.errorType = none ∧ 400 ≤ refusal.status := by
  cases refusal with
  | unknownPath => exact ⟨rfl, by decide⟩
  | wrongMethod => exact ⟨rfl, by decide⟩
  | _ => cases h

theorem errorType_isSome_iff {refusal : Refusal} (h : refusal.isRouting = false) :
    refusal.errorType.isSome = true ↔ 400 ≤ refusal.status := by
  cases refusal with
  | unknownPath => cases h
  | wrongMethod => cases h
  | invalid faults => exact iff_of_true rfl (Nat.le_of_ble_eq_true rfl)
  | unreadable kind => exact iff_of_true rfl (Nat.le_of_ble_eq_true rfl)
  | declined status detail cause =>
    rw [errorType, Refusal.status]
    split
    · next refused => exact iff_of_true rfl refused
    · next accepted => exact iff_of_false Bool.false_ne_true accepted
  | engine e => exact iff_of_true rfl (Family.status_ge e.family)
  | breakdown b => exact iff_of_true rfl (Nat.le_of_ble_eq_true rfl)

theorem isRouting_ofFailure (f : Failure) : (ofFailure f).isRouting = false := by
  cases f <;> rfl

theorem isRouting_translating (f : Failure) : (translating f).isRouting = false := by
  cases f <;> rfl

/-- The refusal comes of the failure, which is translated or let through. -/
def ComesOf (refusal : Refusal) (f : Failure) : Prop :=
  refusal = ofFailure f ∨ refusal = translating f

/-- A refusal that comes of an error has its kind and its status. -/
theorem ComesOf.engine {refusal : Refusal} {e : Error} (h : refusal.ComesOf (.engine e)) :
    refusal.errorType = some e.family.name ∧ refusal.status = e.status := by
  rcases h with rfl | rfl
  · exact ⟨rfl, rfl⟩
  · have refused : 400 ≤ e.status := Family.status_ge e.family
    exact ⟨if_pos refused, rfl⟩

end Refusal

/-! ### Answers of actions -/

/-- The answer of an action: its response, if it has one, does not have the status of an error, and
its refusal does not say that the request leads nowhere. -/
def OfAction : Answer → Prop
  | .ok response => response.status < 400
  | .error refusal => refusal.isRouting = false

theorem ofAction_document (v : Value) : OfAction (.ok (.document v)) :=
  Nat.le_of_ble_eq_true rfl

/-- Whatever refusal this ends with, it is not that the request leads nowhere. -/
def Arrives {α : Type} (r : Except Refusal α) : Prop :=
  ∀ refusal, r = .error refusal → refusal.isRouting = false

theorem arrives_ok {α : Type} (a : α) : Arrives (.ok a) :=
  fun _ h ↦ nomatch h

theorem arrives_error {α : Type} {refusal : Refusal} (h : refusal.isRouting = false) :
    Arrives (.error refusal : Except Refusal α) := by
  rintro other same
  cases same
  exact h

theorem Arrives.map {α β : Type} {r : Except Refusal α} (h : Arrives r) (f : α → β) :
    Arrives (r.map f) := by
  cases r with
  | ok a => exact arrives_ok _
  | error refusal => exact arrives_error (h refusal rfl)

theorem arrives_bodyValue (body : String) : Arrives (bodyValue body) := by
  rw [bodyValue]
  split
  · exact arrives_ok _
  · split
    · exact arrives_error rfl
    · split
      · exact arrives_ok _
      · split
        · exact arrives_error rfl
        · exact arrives_error rfl

theorem arrives_readBody {α : Type} (check : Value → Schema.Check α) (body : String) :
    Arrives (readBody check body) :=
  (arrives_bodyValue body).map _

namespace World

variable (w : World)

theorem ofAction_answerRead {α : Type} {check : Except Refusal (Schema.Check α)}
    (read : Arrives check) {run : α → Answer × World} (h : ∀ a, OfAction (run a).1) :
    OfAction (w.answerRead check run).1 := by
  rw [answerRead]
  cases check with
  | error refusal => exact read refusal rfl
  | ok c =>
    cases c with
    | ok a => exact h a
    | rejected faults => exact rfl
    | overflow message => exact rfl

theorem ofAction_stored {α : Type} {refuse : Failure → Refusal}
    (refused : ∀ f, (refuse f).isRouting = false) {response : α → Answer}
    (h : ∀ a, OfAction (response a)) (r : Except Failure α × Store) :
    OfAction (w.stored refuse response r).1 := by
  obtain ⟨result, store⟩ := r
  cases result with
  | ok a => exact h a
  | error f => exact refused f

theorem arrives_display (c : Panel.Command) (field : Option String) (direction : Direction) :
    Arrives (w.display c field direction).1 := by
  unfold display
  generalize w.view c = shown
  obtain ⟨desk, calls, stage⟩ := shown
  cases stage with
  | pending p => exact arrives_error rfl
  | finished result =>
    cases result with
    | error f => exact arrives_error (Refusal.isRouting_ofFailure f)
    | ok rendered =>
      generalize Resolution.given field = given
      cases given with
      | none => exact arrives_ok _
      | some name =>
        dsimp only
        split
        · exact arrives_ok _
        · exact arrives_ok _

theorem ofAction_tableAnswer {r : Except Refusal Rendered × World} (h : Arrives r.1) :
    OfAction (tableAnswer r).1 := by
  obtain ⟨result, world⟩ := r
  cases result with
  | error refusal => exact h refusal rfl
  | ok rendered =>
    simp only [tableAnswer]
    split
    · exact rfl
    · exact ofAction_document _

theorem ofAction_exportOf (format : FileFormat) (name : String) (rendered : Rendered) :
    OfAction (exportOf format name rendered) := by
  rw [exportOf]
  split
  · exact rfl
  · split
    · exact rfl
    · dsimp only
      split
      · exact (by decide : 200 < 400)
      · exact rfl

theorem ofAction_exportConfig (query : Entries String) (body : RenderBody) :
    OfAction (w.exportConfig query body).1 := by
  rw [exportConfig]
  cases FileFormat.named? ((query.get? "format").getD FileFormat.separated.ending) with
  | none => exact rfl
  | some format =>
    have refused := w.arrives_display (.renderConfig (some body.configName)
      ⟨body.record, body.object, body.viewer⟩) body.sortField (body.sortDirection.getD .ascending)
    cases shown : (w.render body).1 with
    | error refusal =>
      simp only [shown]
      exact refused refusal shown
    | ok rendered =>
      simp only [shown]
      exact ofAction_exportOf format body.configName rendered

theorem ofAction_searchLog (log : RequestLog) (now : Int) (search : LogSearch) :
    OfAction (searchLog log now search) := by
  unfold searchLog
  split
  · exact rfl
  · split
    · exact rfl
    · split
      · exact rfl
      · exact Nat.le_of_ble_eq_true rfl

theorem ofAction_showLogEntry (log : RequestLog) (id : Int) : OfAction (showLogEntry log id) := by
  unfold showLogEntry
  split
  · exact rfl
  · split
    · exact ofAction_document _
    · exact rfl

theorem ofAction_listFields (object : String) : OfAction (w.listFields object) := by
  unfold listFields
  split
  · exact ofAction_document _
  · split
    · exact rfl
    · exact rfl

theorem ofAction_reconcileConfig (id : Int) : OfAction (w.reconcileConfig id).1 := by
  unfold reconcileConfig
  dsimp only
  split
  · exact Refusal.isRouting_translating _
  · exact ofAction_document _

theorem ofAction_preview (body : PreviewBody) : OfAction (w.preview body).1 := by
  unfold preview
  generalize w.edit body.commands = edited
  obtain ⟨desk, reports⟩ := edited
  dsimp only
  split
  · exact Refusal.isRouting_ofFailure _
  · cases previewOf desk.state with
    | error f => exact Refusal.isRouting_ofFailure f
    | ok v => exact ofAction_document v

/-- No action is answered with the status of an error, or refused like a request that leads
nowhere. -/
theorem ofAction_perform (log : RequestLog) (now : Int) (r : Request) (a : Action) :
    OfAction (w.perform log now r a).1 := by
  have saved := fun c ↦ ofAction_document (SavedConfig.toValue c)
  cases a with
  | listObjects => exact ofAction_document _
  | listFields object => exact w.ofAction_listFields object
  | listConfigs => exact ofAction_document _
  | createConfig =>
    refine w.ofAction_answerRead (arrives_readBody _ _) fun n ↦ ?_
    exact w.ofAction_stored Refusal.isRouting_translating saved _
  | showConfig id =>
    refine w.ofAction_answerRead (arrives_ok _) fun n ↦ ?_
    refine w.ofAction_stored Refusal.isRouting_translating (fun found ↦ ?_) _
    cases found with
    | none => exact rfl
    | some c => exact saved c
  | changeConfig id =>
    refine w.ofAction_answerRead ((arrives_readBody _ _).map _) fun read ↦ ?_
    exact w.ofAction_stored Refusal.isRouting_translating saved _
  | deleteConfig id =>
    refine w.ofAction_answerRead (arrives_ok _) fun n ↦ ?_
    refine w.ofAction_stored Refusal.isRouting_ofFailure (fun deleted ↦ ?_) _
    cases deleted with
    | true => exact ofAction_document _
    | false => exact rfl
  | reconcileConfig id =>
    refine w.ofAction_answerRead (arrives_ok _) fun n ↦ ?_
    exact w.ofAction_reconcileConfig n
  | preview =>
    exact w.ofAction_answerRead (arrives_readBody _ _) w.ofAction_preview
  | runQuery =>
    refine w.ofAction_answerRead (arrives_readBody _ _) fun body ↦ ?_
    exact ofAction_tableAnswer (w.arrives_display _ _ _)
  | render =>
    refine w.ofAction_answerRead (arrives_readBody _ _) fun body ↦ ?_
    exact ofAction_tableAnswer (w.arrives_display _ _ _)
  | «export» =>
    exact w.ofAction_answerRead (arrives_readBody _ _) (w.ofAction_exportConfig r.query)
  | searchLog =>
    exact w.ofAction_answerRead (arrives_ok _) fun search ↦ ofAction_searchLog log now search
  | showLogEntry id =>
    exact w.ofAction_answerRead (arrives_ok _) fun n ↦ ofAction_showLogEntry log n

/-! ### Operations that fail -/

/-- What is read of a request. -/
def Reads {α : Type} (check : Except Refusal (Schema.Check α)) (a : α) : Prop :=
  check.bind Refusal.ofCheck = .ok a

/-- The operation that an action runs, on what it reads of the request, ends with a failure. An
error that a panel shows in place of its rows is no failure of the rendering. -/
inductive Fails (r : Request) : Action → Failure → Prop
  | fields {object : String} {e : Error}
    (failed : (w.source.fields (some object)).bind FieldList.ofDiscovered = .error e) :
    Fails r (.listFields object) (.engine e)
  | create {n : NewConfig} {f : Failure} (read : Reads r.newConfig n)
    (failed : (w.store.create n).1 = .error f) : Fails r .createConfig f
  | get {id : String} {n : Int} {f : Failure} (read : Reads (configId id) n)
    (failed : w.store.get (some n) = .error f) : Fails r (.showConfig id) f
  | update {id : String} {n : Int} {change : ConfigChange} {f : Failure}
    (read : Reads (r.configChange id) (n, change))
    (failed : (w.store.update (some n) change).1 = .error f) : Fails r (.changeConfig id) f
  | delete {id : String} {n : Int} {f : Failure} (read : Reads (configId id) n)
    (failed : (w.store.delete (some n)).1 = .error f) : Fails r (.deleteConfig id) f
  | load {id : String} {n : Int} {f : Failure} (read : Reads (configId id) n)
    (failed : lastFailure? (w.edit [.loadConfig (some n)]).2 = some f) :
    Fails r (.reconcileConfig id) f
  | preview {body : PreviewBody} {f : Failure} (read : Reads r.previewBody body)
    (failed : lastFailure? (w.edit body.commands).2 = some f) : Fails r .preview f
  | query {body : QueryBody} {f : Failure} (read : Reads r.queryBody body)
    (failed : Task.Desk.failure? (w.view (.renderQuery body.query body.labels)).2.stage = some f) :
    Fails r .runQuery f
  | render {body : RenderBody} {f : Failure} (read : Reads r.renderBody body)
    (failed : Task.Desk.failure? (w.view (.renderConfig (some body.configName)
      ⟨body.record, body.object, body.viewer⟩)).2.stage = some f) : Fails r .render f
  | «export» {body : RenderBody} {format : FileFormat} {f : Failure}
    (read : Reads r.renderBody body)
    (known : FileFormat.named? ((r.query.get? "format").getD FileFormat.separated.ending) =
      some format)
    (failed : Task.Desk.failure? (w.view (.renderConfig (some body.configName)
      ⟨body.record, body.object, body.viewer⟩)).2.stage = some f) : Fails r .export f

variable {w}

private theorem answerRead_of_reads {α : Type} {check : Except Refusal (Schema.Check α)} {a : α}
    (read : Reads check a) (run : α → Answer × World) : w.answerRead check run = run a := by
  rw [answerRead, read]

private theorem stored_of_failure {α : Type} (refuse : Failure → Refusal) (response : α → Answer)
    {r : Except Failure α × Store} {f : Failure} (failed : r.1 = .error f) :
    (w.stored refuse response r).1 = .error (refuse f) := by
  rw [stored, failed]

private theorem display_of_failure {c : Panel.Command} {f : Failure}
    (failed : Task.Desk.failure? (w.view c).2.stage = some f) (field : Option String)
    (direction : Direction) : (w.display c field direction).1 = .error (.ofFailure f) := by
  unfold display
  generalize w.view c = shown at failed ⊢
  obtain ⟨desk, calls, stage⟩ := shown
  cases stage with
  | pending p => cases failed
  | finished result =>
    cases result with
    | ok rendered => cases failed
    | error other =>
      cases failed
      rfl

private theorem tableAnswer_of_refusal {r : Except Refusal Rendered × World} {refusal : Refusal}
    (refused : r.1 = .error refusal) : (tableAnswer r).1 = .error refusal := by
  rw [tableAnswer, refused]

private theorem exportConfig_of_failure {query : Entries String} {body : RenderBody}
    {format : FileFormat} {f : Failure}
    (known : FileFormat.named? ((query.get? "format").getD FileFormat.separated.ending) =
      some format)
    (failed : Task.Desk.failure? (w.view (.renderConfig (some body.configName)
      ⟨body.record, body.object, body.viewer⟩)).2.stage = some f) :
    (w.exportConfig query body).1 = .error (.ofFailure f) := by
  have shown : (w.render body).1 = .error (.ofFailure f) := display_of_failure failed _ _
  unfold exportConfig
  simp only [known, shown]
  rfl

/-- An action whose operation fails is refused with the failure, translated or let through. -/
theorem perform_of_fails {r : Request} {a : Action} {f : Failure} (h : w.Fails r a f)
    (log : RequestLog) (now : Int) :
    ∃ refusal : Refusal, (w.perform log now r a).1 = .error refusal ∧ refusal.ComesOf f := by
  cases h with
  | fields failed =>
    rename_i object e
    have refused : w.listFields object =
        .error (if e.family.isDiscovery then .translated e else .engine e) := by
      rw [listFields, failed]
    refine ⟨_, refused, ?_⟩
    split
    · exact .inr rfl
    · exact .inl rfl
  | create read failed =>
    rw [perform, answerRead_of_reads read]
    exact ⟨_, stored_of_failure _ _ failed, .inr rfl⟩
  | get read failed =>
    rw [perform, answerRead_of_reads read]
    exact ⟨_, stored_of_failure _ _ failed, .inr rfl⟩
  | update read failed =>
    rw [perform, answerRead_of_reads read]
    exact ⟨_, stored_of_failure _ _ failed, .inr rfl⟩
  | delete read failed =>
    rw [perform, answerRead_of_reads read]
    exact ⟨_, stored_of_failure _ _ failed, .inl rfl⟩
  | load read failed =>
    rw [perform, answerRead_of_reads read]
    refine ⟨_, ?_, .inr rfl⟩
    rw [reconcileConfig]
    simp only [failed]
  | preview read failed =>
    rw [perform, answerRead_of_reads read]
    refine ⟨_, ?_, .inl rfl⟩
    rw [World.preview]
    simp only [failed]
  | query read failed =>
    rw [perform, answerRead_of_reads read]
    exact ⟨_, tableAnswer_of_refusal (display_of_failure failed _ _), .inl rfl⟩
  | render read failed =>
    rw [perform, answerRead_of_reads read]
    exact ⟨_, tableAnswer_of_refusal (display_of_failure failed _ _), .inl rfl⟩
  | «export» read known failed =>
    rw [perform, answerRead_of_reads read]
    exact ⟨_, exportConfig_of_failure known failed, .inl rfl⟩

end World

/-! ### Records -/

namespace Service

variable {s : Service} {now : Int} {r : Request} {record : LogRecord}

/-- A record tells how its request was answered. -/
theorem answer_of_mem_added (h : record ∈ s.added now r) :
    (∃ response, (s.answer now r).1 = .ok response ∧ record.status = response.status ∧
      record.errorType = none) ∨
    (∃ refusal, (s.answer now r).1 = .error refusal ∧ record.status = refusal.status ∧
      record.errorType = refusal.errorType) := by
  rw [added_eq, outcome] at h
  have recorded {response : Response} {errorType : Option String}
      (mem : record ∈ recordsOfResponse s.host now r errorType (.ok response)) :
      record.status = response.status ∧ record.errorType = errorType := by
    rw [recordsOfResponse] at mem
    split at mem
    · cases List.mem_singleton.mp mem
      exact ⟨rfl, rfl⟩
    · exact absurd mem List.not_mem_nil
  generalize (s.answer now r).1 = a at h ⊢
  cases a with
  | ok response =>
    obtain ⟨status, kind⟩ := recorded ((List.mem_append.mp h).resolve_right List.not_mem_nil)
    exact .inl ⟨response, rfl, status, kind⟩
  | error refusal =>
    refine .inr ⟨refusal, rfl, ?_⟩
    cases refusal with
    | breakdown b =>
      have mem := (List.mem_append.mp h).resolve_left List.not_mem_nil
      cases List.mem_singleton.mp mem
      exact ⟨rfl, rfl⟩
    | _ => exact recorded ((List.mem_append.mp h).resolve_right List.not_mem_nil)

/-- The request leads nowhere: its path or its method is unknown. -/
def LeadsNowhere (r : Request) : Prop :=
  Route.find r.method r.path = .unknown ∨ Route.find r.method r.path = .wrongMethod

instance (r : Request) : Decidable (LeadsNowhere r) :=
  inferInstanceAs (Decidable (_ ∨ _))

private theorem answer_of_nowhere (s : Service) (now : Int) (h : LeadsNowhere r) :
    ∃ refusal, (s.answer now r).1 = .error refusal ∧ refusal.isRouting = true := by
  rw [answer]
  rcases h with unknown | wrong
  · rw [unknown]
    exact ⟨_, rfl, rfl⟩
  · rw [wrong]
    exact ⟨_, rfl, rfl⟩

private theorem ofAction_answer (s : Service) (now : Int) (h : ¬ LeadsNowhere r) :
    OfAction (s.answer now r).1 := by
  rw [answer]
  cases route : Route.find r.method r.path with
  | action a => exact s.world.ofAction_perform s.log now r a
  | moved => exact Nat.le_of_ble_eq_true rfl
  | wrongMethod => exact absurd (.inr route) h
  | unknown => exact absurd (.inl route) h

/-- A record names a kind of error exactly if it has the status of one, unless its request leads
nowhere. -/
theorem isSome_errorType_iff (h : record ∈ s.added now r) :
    (record.errorType.isSome = true ↔ 400 ≤ record.status) ↔ ¬ LeadsNowhere r := by
  by_cases nowhere : LeadsNowhere r
  · obtain ⟨refusal, refused, routing⟩ := answer_of_nowhere s now nowhere
    obtain ⟨none, high⟩ := Refusal.errorType_of_routing routing
    refine iff_of_false (fun tagged ↦ ?_) (not_not_intro nowhere)
    rcases answer_of_mem_added h with ⟨response, answered, -⟩ | ⟨other, answered, status, kind⟩
    · cases refused.symm.trans answered
    · cases refused.symm.trans answered
      rw [kind, none, status] at tagged
      exact Bool.false_ne_true (tagged.mpr (Int.ofNat_le.mpr high))
  · refine iff_of_true ?_ nowhere
    have sound := ofAction_answer s now nowhere
    rcases answer_of_mem_added h with ⟨response, answered, status, none⟩ |
      ⟨refusal, answered, status, kind⟩
    · rw [answered] at sound
      have low : ¬ 400 ≤ response.status := Nat.not_le.mpr sound
      rw [none, status]
      exact iff_of_false Bool.false_ne_true fun high ↦ low (Int.ofNat_le.mp high)
    · rw [answered] at sound
      rw [kind, status]
      exact (Refusal.errorType_isSome_iff sound).trans Int.ofNat_le.symm

/-- A record has the kind and the status of the error with which the operation of its request has
failed. -/
theorem errorType_of_fails {a : Action} {e : Error} (route : Route.find r.method r.path = .action a)
    (fails : s.world.Fails r a (.engine e)) (h : record ∈ s.added now r) :
    record.errorType = some e.family.name ∧ record.status = e.status := by
  have routed : (s.answer now r).1 = (s.world.perform s.log now r a).1 := by
    rw [answer, route]
  obtain ⟨refusal, refused, comes⟩ := World.perform_of_fails fails s.log now
  rcases answer_of_mem_added h with ⟨response, answered, -⟩ | ⟨other, answered, status, kind⟩
  · cases (routed.trans refused).symm.trans answered
  · cases (routed.trans refused).symm.trans answered
    rw [kind, status]
    exact ⟨comes.engine.1, congrArg _ comes.engine.2⟩

/-- What the log keeps of a request has the status of the response. It names a kind of error exactly
if this is the status of an error, unless the request leads nowhere. If the operation that the
request asks for ends with an error, the kind and the status are those of the error. -/
theorem errorType_of_recorded (h : record ∈ s.added now r) :
    record.status = (s.handle now r).1.status ∧
    ((record.errorType.isSome = true ↔ 400 ≤ record.status) ↔ ¬ LeadsNowhere r) ∧
    ∀ a e, Route.find r.method r.path = .action a → s.world.Fails r a (.engine e) →
      record.errorType = some e.family.name ∧ record.status = e.status :=
  ⟨(path_and_status_of_mem_added h).2, isSome_errorType_iff h, fun _ _ route fails ↦
    errorType_of_fails route fails h⟩

/-- A request to show a configuration as its object is now, where there is none of the number. -/
def reconcileMissing : Request := ⟨"POST", "/api/tables/configs/7/reconcile", [], "", none⟩

theorem errorType_of_reconcileMissing : ∃ record, record ∈ blank.added 1 reconcileMissing ∧
    ¬ LeadsNowhere reconcileMissing ∧
    blank.world.Fails reconcileMissing (.reconcileConfig "7")
      (.engine (.configIdNotFound (some 7))) ∧
    record.status = 404 ∧ record.errorType = some "ConfigNotFound" := by
  obtain ⟨record, one, -⟩ :=
    added_of_recorded blank 1 (r := reconcileMissing) (by decide)
  have mem : record ∈ blank.added 1 reconcileMissing := one ▸ List.mem_singleton_self record
  have fails : blank.world.Fails reconcileMissing (.reconcileConfig "7")
      (.engine (.configIdNotFound (some 7))) :=
    .load (n := 7) rfl (by decide +kernel)
  obtain ⟨-, -, caused⟩ := errorType_of_recorded mem
  obtain ⟨kind, status⟩ := caused (.reconcileConfig "7") _ (by decide +kernel) fails
  exact ⟨record, mem, by decide +kernel, fails, status, kind⟩

/-- A request to a path that nothing answers, and one with a method that the path does not have, are
recorded with the status of an error and without a kind. -/
theorem exists_refusals_without_kind : ∃ (s : Service) (unknown wrong : Request),
    (s.added 1 unknown).map (fun r ↦ (r.status, r.errorType)) = [(404, none)] ∧
    (s.added 1 wrong).map (fun r ↦ (r.status, r.errorType)) = [(405, none)] :=
  ⟨blank, ⟨"GET", "/api/tables/unknown", [], "", none⟩,
    ⟨"DELETE", "/api/tables/configs", [], "", none⟩, by decide +kernel, by decide +kernel⟩

end Service

end Api

end TableView
