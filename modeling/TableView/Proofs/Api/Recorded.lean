import TableView.Api.Service

/-!
# What the log keeps of requests

A request is recorded either with its response or, if it breaks down, by the layer around, and never
by both: a breakdown comes through without a response. So every request whose path is recorded adds
exactly one record, and one whose path is not adds a record only if it breaks down
(`added_of_recorded`, `added_of_unrecorded`). Whatever requests come, the log keeps of each what it
is to keep, and nothing else is ever added to it (`records_of_requests`).
-/

namespace TableView

namespace RequestLog

/-- The records of a log, without their numbers. -/
def records (log : RequestLog) : List LogRecord := log.entries.map LogEntry.record

theorem records_add (log : RequestLog) (r : LogRecord) :
    (log.add r).records = log.records ++ [r] := by
  rw [records, records, add, List.map_append]
  rfl

theorem records_foldl_add (added : List LogRecord) (log : RequestLog) :
    (added.foldl add log).records = log.records ++ added := by
  induction added generalizing log with
  | nil => exact (List.append_nil _).symm
  | cons r rest ih =>
    rw [List.foldl_cons, ih, records_add, List.append_assoc, List.singleton_append]

end RequestLog

namespace Api

/-! ### Paths -/

namespace Request

/-- The path of the URL starts like those whose requests are not recorded. -/
def IsExempt (r : Request) : Prop :=
  ∃ start ∈ ["/api/logs", "/api/docs", "/api/redoc", "/api/openapi.json"],
    start.toList <+: r.urlPath.toList

theorem isRecorded_eq_false_iff (r : Request) : r.isRecorded = false ↔ r.IsExempt := by
  simp only [isRecorded, Bool.not_eq_false', List.any_eq_true, List.isPrefixOf_iff_prefix, IsExempt,
    unrecorded]

end Request

/-! ### Records of one request -/

/-- Every request but one for the head alone gets the response as it is. -/
theorem Response.sentTo_of_method {r : Request} (h : r.method ≠ "HEAD") (response : Response) :
    response.sentTo r = response := by
  rw [sentTo, if_neg h]

namespace Service

variable (s : Service) (now : Int) (r : Request)

/-- What handling a request adds to the log. -/
def added : List LogRecord := (s.handle now r).2.log.records.drop s.log.records.length

/-- Whether the answer to a request is a breakdown. -/
def breaksDown : Bool :=
  match (s.answer now r).1 with
  | .error (.breakdown _) => true
  | _ => false

/-- What comes through the innermost layer: the response or the breakdown, and the kind of error
that is noted. -/
def outcome : Except Breakdown Response × Option String := respond (s.answer now r).1

theorem log_handle : (s.handle now r).2.log.records = s.log.records ++ s.added now r := by
  have extended : s.log.records <+: (s.handle now r).2.log.records :=
    ⟨_, (RequestLog.records_foldl_add _ s.log).symm⟩
  exact List.prefix_iff_eq_append.mp extended |>.symm

theorem added_eq : s.added now r =
    recordsOfResponse s.host now r (s.outcome now r).2 (s.outcome now r).1 ++
      recordsOfBreakdown s.host now r (s.outcome now r).1 := by
  have log : (s.handle now r).2.log.records = s.log.records ++ _ :=
    RequestLog.records_foldl_add _ s.log
  rw [added, log, List.drop_left]
  rfl

theorem status_handle :
    (s.handle now r).1.status = (finalResponse (s.outcome now r).1).status := by
  have sent (response : Response) : (response.sentTo r).status = response.status := by
    rw [Response.sentTo]
    split
    · rfl
    · rfl
  exact sent _

theorem breaksDown_iff :
    s.breaksDown now r = true ↔ ∃ b, (s.outcome now r).1 = .error b := by
  rw [breaksDown, outcome]
  generalize (s.answer now r).1 = a
  cases a with
  | ok response => exact iff_of_false Bool.false_ne_true fun ⟨_, h⟩ ↦ nomatch h
  | error refusal =>
    cases refusal with
    | breakdown b => exact iff_of_true rfl ⟨b, rfl⟩
    | _ => exact iff_of_false Bool.false_ne_true fun ⟨_, h⟩ ↦ nomatch h

/-- The record keeps what was asked, and the status that it was answered with. -/
structure Keeps (record : LogRecord) (r : Request) (status : Nat) : Prop where
  method : record.method = r.method
  path : record.path = r.urlPath
  body : record.requestBody = some r.body
  status : record.status = status

variable {r}

/-- A request whose path is recorded adds exactly one record, whether it breaks down or not. -/
theorem added_of_recorded (h : r.isRecorded = true) :
    ∃ record, s.added now r = [record] ∧ Keeps record r (s.handle now r).1.status := by
  rw [added_eq, status_handle]
  cases (s.outcome now r).1 with
  | ok response =>
    rw [recordsOfResponse, if_pos h, recordsOfBreakdown, List.append_nil]
    exact ⟨_, rfl, rfl, rfl, rfl, rfl⟩
  | error b =>
    rw [recordsOfResponse, recordsOfBreakdown, List.nil_append, if_pos h]
    exact ⟨_, rfl, rfl, rfl, rfl, rfl⟩

/-- A request whose path is not recorded adds a record exactly if it breaks down. -/
theorem added_of_unrecorded (h : r.isRecorded = false) :
    (s.breaksDown now r = false ∧ s.added now r = []) ∨
      (s.breaksDown now r = true ∧ ∃ record, s.added now r = [record] ∧
        record.path = r.urlPath ∧ record.status = (s.handle now r).1.status) := by
  have broken := breaksDown_iff s now r
  rw [added_eq, status_handle]
  generalize (s.outcome now r).1 = outcome at broken ⊢
  cases outcome with
  | ok response =>
    refine .inl ⟨Bool.eq_false_iff.mpr fun down ↦ ?_, ?_⟩
    · obtain ⟨b, none⟩ := broken.mp down
      cases none
    · rw [recordsOfResponse, h, recordsOfBreakdown, if_neg Bool.false_ne_true, List.append_nil]
  | error b => exact .inr ⟨broken.mpr ⟨b, rfl⟩, _, rfl, rfl, rfl⟩

/-- A record has the path of its request and the status of the response. -/
theorem path_and_status_of_mem_added {s : Service} {now : Int} {record : LogRecord}
    (h : record ∈ s.added now r) :
    record.path = r.urlPath ∧ record.status = (s.handle now r).1.status := by
  cases recorded : r.isRecorded with
  | true =>
    obtain ⟨record', one, keeps⟩ := added_of_recorded s now recorded
    rw [one] at h
    cases List.mem_singleton.mp h
    exact ⟨keeps.path, keeps.status⟩
  | false =>
    rcases added_of_unrecorded s now recorded with
      ⟨-, none⟩ | ⟨-, record', one, path, status⟩
    · rw [none] at h
      nomatch h
    · rw [one] at h
      cases List.mem_singleton.mp h
      exact ⟨path, status⟩

end Service

/-! ### Records of a sequence of requests -/

/-- A request, the status it was answered with, whether it broke down and what it added to the
log. -/
structure Exchange where
  request : Request
  status : Nat
  brokeDown : Bool
  added : List LogRecord

namespace Exchange

/-- What the log is to hold of a request: exactly one record of what was asked and how it was
answered, or, for the paths that are exempt, at most one, and none unless it broke down. -/
structure Documented (x : Exchange) : Prop where
  recorded : ¬ x.request.IsExempt → ∃ record, x.added = [record] ∧
    record.method = x.request.method ∧ record.path = x.request.urlPath ∧
    record.requestBody = some x.request.body ∧ record.status = x.status
  exempt : x.request.IsExempt →
    x.added = [] ∨ (x.brokeDown = true ∧ ∃ record, x.added = [record])

end Exchange

namespace Service

/-- A request as the service handles it. -/
def exchange (s : Service) (now : Int) (r : Request) : Exchange :=
  ⟨r, (s.handle now r).1.status, s.breaksDown now r, s.added now r⟩

/-- Requests, each with its time, as the service handles one after another. -/
def exchanges : Service → List (Int × Request) → List Exchange
  | _, [] => []
  | s, (now, r) :: rest => s.exchange now r :: (s.handle now r).2.exchanges rest

/-- The service after requests. -/
def after (s : Service) (requests : List (Int × Request)) : Service :=
  requests.foldl (fun s x ↦ (s.handle x.1 x.2).2) s

theorem documented_exchange (s : Service) (now : Int) (r : Request) :
    (s.exchange now r).Documented where
  recorded h := by
    have recorded : r.isRecorded = true := by
      rw [← Bool.not_eq_false, Request.isRecorded_eq_false_iff]
      exact h
    obtain ⟨record, one, keeps⟩ := added_of_recorded s now recorded
    exact ⟨record, one, keeps.method, keeps.path, keeps.body, keeps.status⟩
  exempt h := by
    rcases added_of_unrecorded s now ((Request.isRecorded_eq_false_iff r).mpr h) with
      ⟨-, none⟩ | ⟨down, record, one, -⟩
    · exact .inl none
    · exact .inr ⟨down, record, one⟩

theorem exists_of_mem_exchanges {s : Service} {requests : List (Int × Request)} {x : Exchange}
    (h : x ∈ s.exchanges requests) : ∃ (t : Service) (now : Int) (r : Request),
      x = t.exchange now r := by
  induction requests generalizing s with
  | nil => nomatch h
  | cons first rest ih =>
    rcases List.mem_cons.mp h with rfl | later
    · exact ⟨_, _, _, rfl⟩
    · exact ih later

theorem log_after (s : Service) (requests : List (Int × Request)) :
    (s.after requests).log.records =
      s.log.records ++ (s.exchanges requests).flatMap Exchange.added := by
  induction requests generalizing s with
  | nil => exact (List.append_nil _).symm
  | cons first rest ih =>
    have later := ih (s.handle first.1 first.2).2
    rw [log_handle, List.append_assoc] at later
    exact later

theorem requests_of_exchanges (s : Service) (requests : List (Int × Request)) :
    (s.exchanges requests).map Exchange.request = requests.map Prod.snd := by
  induction requests generalizing s with
  | nil => rfl
  | cons first rest ih => exact congrArg (first.2 :: ·) (ih _)

/-- Whatever requests a service has handled, its log has grown by what each of them has added, in
their order, and that is what the log is to hold of it. -/
theorem records_of_requests (s : Service) (requests : List (Int × Request)) :
    (s.after requests).log.records =
      s.log.records ++ (s.exchanges requests).flatMap Exchange.added ∧
    (s.exchanges requests).map Exchange.request = requests.map Prod.snd ∧
    ∀ x ∈ s.exchanges requests, x.Documented := by
  refine ⟨log_after s requests, requests_of_exchanges s requests, fun x mem ↦ ?_⟩
  obtain ⟨t, now, r, rfl⟩ := exists_of_mem_exchanges mem
  exact documented_exchange t now r

/-- A service without objects, configurations and records. -/
def blank : Service :=
  ⟨⟨⟨[], [], [], []⟩, Store.empty⟩, RequestLog.empty, ⟨"operator", "tables"⟩⟩

/-- Requests of which one is answered, two are declined, and two break down, the last of these under
a path that is exempt. One path has a question mark that is escaped. -/
def mixedRequests : List (Int × Request) :=
  [(1, ⟨"GET", "/api/tables/configs", [], "", none⟩),
    (2, ⟨"GET", "/api/tables/objects/What%3F/fields", [], "", none⟩),
    (3, ⟨"DELETE", "/api/tables/configs/7", [], "why", none⟩),
    (4, ⟨"DELETE", "/api/tables/configs/99999999999999999999", [], "why", none⟩),
    (5, ⟨"GET", "/api/logs/1", [], "", none⟩),
    (6, ⟨"GET", "/api/logs/99999999999999999999", [], "", none⟩)]

theorem records_of_mixedRequests :
    (blank.after mixedRequests).log.records.map
        (fun r ↦ (r.method, r.path, r.requestBody, r.status)) =
      [("GET", "/api/tables/configs", some "", 200),
        ("GET", "/api/tables/objects/What%3F/fields", some "", 404),
        ("DELETE", "/api/tables/configs/7", some "why", 404),
        ("DELETE", "/api/tables/configs/99999999999999999999", some "why", 500),
        ("GET", "/api/logs/99999999999999999999", some "", 500)] ∧
    ∀ x ∈ blank.exchanges mixedRequests, x.Documented :=
  ⟨by decide +kernel, (records_of_requests blank mixedRequests).2.2⟩

end Service

end Api

end TableView
