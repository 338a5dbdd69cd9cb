import TableView.Proofs.Api.Recorded
import TableView.Proofs.RequestLog.Listing
import TableView.Proofs.Schema.Check
import TableView.Proofs.Schema.IntegerText

/-!
# Pages of the log

Whatever page of a search can be asked for is asked for by a query of its numbers
(`ofQuery_toQuery`). A read of a page is answered from the log alone and, since its path is exempt,
leaves the service as it is (`handle_of_asks`). So a reader who asks for one page after another
reads all of them from one list, however much time passes between two reads as long as no entry gets
too old (`pages_of_search`). A term that is too long for a pattern is not looked for at all: the
read breaks down (`exists_search_breaks_down`).
-/

namespace TableView

/-- The member of a document. -/
def Value.member? (v : Value) (key : String) : Option Value :=
  match v with
  | .object entries => Entries.get? entries key
  | _ => none

/-- The document shows the entry: its number, what was asked, how it was answered, and by whom. -/
structure LogEntry.ShownBy (e : LogEntry) (v : Value) : Prop where
  id : v.member? "id" = some (.int e.id)
  method : v.member? "method" = some (.text e.record.method)
  path : v.member? "path" = some (.text e.record.path)
  status : v.member? "status_code" = some (.int e.record.status)
  requestBody : v.member? "request_body" = some (.ofText? e.record.requestBody)
  responseBody : v.member? "response_body" = some (.ofText? e.record.responseBody)
  userAgent : v.member? "user_agent" = some (.ofText? e.record.userAgent)
  username : v.member? "username" = some (.ofText? e.record.username)
  application : v.member? "application_id" = some (.ofText? e.record.application)
  errorType : v.member? "error_type" = some (.ofText? e.record.errorType)

theorem LogEntry.shownBy_toValue (e : LogEntry) : e.ShownBy e.toValue :=
  ⟨rfl, rfl, rfl, rfl, rfl, rfl, rfl, rfl, rfl, rfl⟩

theorem LogEntry.forall₂_shownBy (entries : List LogEntry) :
    List.Forall₂ LogEntry.ShownBy entries (entries.map LogEntry.toValue) := by
  induction entries with
  | nil => exact .nil
  | cons e rest ih => exact .cons e.shownBy_toValue ih

namespace Api

open Schema

/-! ### Queries for a page -/

/-- What can be looked for: in windows of up to a week, and in a range of statuses that is not
turned round. -/
structure Searchable (f : LogFilter) : Prop where
  hours : 1 ≤ f.hours ∧ f.hours ≤ 168
  low : ∀ n, f.statusMin = some n → 100 ≤ n ∧ n ≤ 599
  high : ∀ n, f.statusMax = some n → 100 ≤ n ∧ n ≤ 599
  ordered : ∀ n m, f.statusMin = some n → f.statusMax = some m → n ≤ m

/-- The request reads the page that a search asks for, at an offset that fits a column. -/
structure Request.Asks (r : Request) (search : LogSearch) : Prop where
  method : r.method = "GET"
  path : r.urlPath = "/api/logs/"
  query : LogSearch.ofQuery r.query = .ok search
  offset : Store.idFits search.offset = true

namespace LogSearch

/-- A page of a size. -/
def ofPage (f : LogFilter) (size page : Nat) : LogSearch := ⟨size, (page * size : Nat), f⟩

/-- The query of the numbers of a search. -/
def toQuery (search : LogSearch) : Entries String :=
  [("limit", toString search.limit), ("offset", toString search.offset),
    ("hours", toString search.filter.hours)] ++
  search.filter.statusMin.toList.map (fun n ↦ ("status_min", toString n)) ++
  search.filter.statusMax.toList.map (fun n ↦ ("status_max", toString n)) ++
  search.filter.search.toList.map (fun term ↦ ("search", term))

/-- A number in its range is read from its text. -/
private theorem queryInteger?_of_text {query : Entries String} {name : String} {given : Option Int}
    {low high : Option Int} (texts : query.get? name = given.map toString)
    (inside : ∀ n, given = some n →
      (0 ≤ n ∧ n ≤ 9223372036854775807) ∧ (∀ l, low = some l → l ≤ n) ∧
        ∀ h, high = some h → n ≤ h) :
    queryInteger? query name low high = .ok given := by
  cases given with
  | none =>
    rw [queryInteger?, texts]
    rfl
  | some n =>
    obtain ⟨⟨nonneg, small⟩, above, below⟩ := inside n rfl
    have notBelow : ¬ low.any (n < ·) = true := by
      rw [Option.any_eq_true]
      rintro ⟨l, bound, less⟩
      exact absurd (above l bound) (Int.not_le.mpr (of_decide_eq_true less))
    have notAbove : ¬ high.any (· < n) = true := by
      rw [Option.any_eq_true]
      rintro ⟨h, bound, less⟩
      exact absurd (below h bound) (Int.not_le.mpr (of_decide_eq_true less))
    rw [queryInteger?, texts]
    dsimp only [Option.map_some, integer]
    rw [integerText_toString nonneg small]
    dsimp only
    rw [ranged, if_neg notBelow, if_neg notAbove]
    rfl

private theorem queryInteger_of_text {query : Entries String} {name : String} {n : Int}
    {low high : Option Int} (fallback : Int) (texts : query.get? name = some (toString n))
    (small : 0 ≤ n ∧ n ≤ 9223372036854775807) (above : ∀ l, low = some l → l ≤ n)
    (below : ∀ h, high = some h → n ≤ h) :
    queryInteger query name low high fallback = .ok n := by
  have read : queryInteger? query name low high = .ok (some n) :=
    queryInteger?_of_text texts <| by
      rintro _ ⟨⟩
      exact ⟨small, above, below⟩
  rw [queryInteger, read]
  rfl

private theorem get?_toQuery (search : LogSearch) :
    search.toQuery.get? "limit" = some (toString search.limit) ∧
    search.toQuery.get? "offset" = some (toString search.offset) ∧
    search.toQuery.get? "hours" = some (toString search.filter.hours) ∧
    search.toQuery.get? "status_min" = search.filter.statusMin.map toString ∧
    search.toQuery.get? "status_max" = search.filter.statusMax.map toString ∧
    search.toQuery.get? "search" = search.filter.search := by
  rcases search with ⟨limit, offset, hours, statusMin, statusMax, search⟩
  cases statusMin <;> cases statusMax <;> cases search <;> exact ⟨rfl, rfl, rfl, rfl, rfl, rfl⟩

/-- A page of one to a thousand entries, at an offset that fits a column, is asked for by its
query. -/
theorem ofQuery_toQuery {search : LogSearch} (searchable : Searchable search.filter)
    (limit : 1 ≤ search.limit ∧ search.limit ≤ 1000) (nonneg : 0 ≤ search.offset)
    (fits : Store.idFits search.offset = true) : ofQuery search.toQuery = .ok search := by
  obtain ⟨limitText, offsetText, hoursText, lowText, highText, term⟩ := get?_toQuery search
  rw [Store.idFits_iff] at fits
  have bounds {low high n : Int} (h : low ≤ n ∧ n ≤ high) (hlow : 0 ≤ low)
      (hhigh : high ≤ 9223372036854775807) :
      (0 ≤ n ∧ n ≤ 9223372036854775807) ∧ (∀ l, some low = some l → l ≤ n) ∧
        ∀ u, some high = some u → n ≤ u := by
    refine ⟨by omega, ?_, ?_⟩
    · rintro _ ⟨⟩
      exact h.1
    · rintro _ ⟨⟩
      exact h.2
  have limitRead : queryInteger search.toQuery "limit" (some 1) (some 1000) 50 = .ok search.limit :=
    have inside := bounds limit (by decide) (by decide)
    queryInteger_of_text 50 limitText inside.1 inside.2.1 inside.2.2
  have offsetRead : queryInteger search.toQuery "offset" (some 0) none 0 = .ok search.offset := by
    have inside := bounds (And.intro nonneg fits.2) (by decide) (by decide)
    refine queryInteger_of_text 0 offsetText inside.1 inside.2.1 ?_
    rintro _ ⟨⟩
  have hoursRead :
      queryInteger search.toQuery "hours" (some 1) (some 168) 24 = .ok search.filter.hours :=
    have inside := bounds searchable.hours (by decide) (by decide)
    queryInteger_of_text 24 hoursText inside.1 inside.2.1 inside.2.2
  have lowRead : queryInteger? search.toQuery "status_min" (some 100) (some 599) =
      .ok search.filter.statusMin :=
    queryInteger?_of_text lowText fun n h ↦ bounds (searchable.low n h) (by decide) (by decide)
  have highRead : queryInteger? search.toQuery "status_max" (some 100) (some 599) =
      .ok search.filter.statusMax :=
    queryInteger?_of_text highText fun n h ↦ bounds (searchable.high n h) (by decide) (by decide)
  rw [ofQuery, limitRead, offsetRead, hoursRead, lowRead, highRead, term]
  rfl

theorem exists_asks {search : LogSearch} (searchable : Searchable search.filter)
    (limit : 1 ≤ search.limit ∧ search.limit ≤ 1000) (nonneg : 0 ≤ search.offset)
    (fits : Store.idFits search.offset = true) : ∃ r : Request, r.Asks search :=
  ⟨⟨"GET", "/api/logs/", search.toQuery, "", none⟩, rfl, rfl,
    ofQuery_toQuery searchable limit nonneg fits, fits⟩

end LogSearch

/-! ### Reads of one page after another -/

/-- The items of the list in the document of a response. -/
def Response.items (r : Response) : List Value :=
  match r.content with
  | .document (.list items) => items
  | _ => []

/-- The answer has the status of success and reports the number of all entries that are found. -/
structure Response.Reports (r : Response) (total : Nat) : Prop where
  status : r.status = 200
  total : r.headers.get? "x-total-count" = some (toString total)

namespace Service

/-- The responses to requests, each with its time, that are handled one after another. -/
def responses : Service → List (Int × Request) → List Response
  | _, [] => []
  | s, (now, r) :: rest => (s.handle now r).1 :: (s.handle now r).2.responses rest

variable {s : Service} {now : Int} {r : Request} {f : LogFilter} {size page : Nat}
  {reads : List (Int × Request)}

/-- A search is answered from the log, and the world stays as it is. -/
private theorem answer_of_asks {search : LogSearch} (asks : r.Asks search) :
    s.answer now r = (searchLog s.log now search, s.world) := by
  have route : Route.find r.method r.path = .action .searchLog := by
    rw [asks.method, Request.path, asks.path]
    decide +kernel
  rw [Service.answer, route]
  dsimp only
  rw [World.perform, World.answerRead, asks.query]
  rfl

private theorem sentTo_of_asks {search : LogSearch} (asks : r.Asks search) (response : Response) :
    response.sentTo r = response := by
  refine Response.sentTo_of_method ?_ response
  rw [asks.method]
  decide

/-- A search that is answered is answered as the log is, and the service stays as it is. -/
theorem handle_of_asks {search : LogSearch} {response : Response} (asks : r.Asks search)
    (answered : searchLog s.log now search = .ok response) : s.handle now r = (response, s) := by
  have unrecorded : r.isRecorded = false := by
    rw [Request.isRecorded, asks.path]
    decide
  rw [handle, answer_of_asks asks, answered]
  dsimp only [respond, recordsOfResponse, recordsOfBreakdown, finalResponse]
  rw [sentTo_of_asks asks, unrecorded]
  rfl

private theorem consistent_of_searchable (searchable : Searchable f) (size page : Nat) :
    ¬ (LogSearch.ofPage f size page).isContradictory = true := by
  rw [LogSearch.isContradictory]
  split
  · next low high hlow hhigh =>
    rw [decide_eq_true_eq, Int.not_lt]
    exact searchable.ordered low high hlow hhigh
  · exact Bool.false_ne_true

private theorem searchLog_ofPage (searchable : Searchable f)
    (short : ∀ t, f.search = some t → t.utf8ByteSize ≤ 49998)
    (asks : r.Asks (LogSearch.ofPage f size page)) (recent : s.log.IsRecent f now) :
    ∃ response, searchLog s.log now (LogSearch.ofPage f size page) = .ok response ∧
      response.items = (s.log.page now f (page * size) size).map LogEntry.toValue ∧
      response.Reports (s.log.listing f).length := by
  have fits : ¬ (!Store.idFits (LogSearch.ofPage f size page).offset) = true := by
    rw [asks.offset]
    exact Bool.false_ne_true
  have answered : ¬ s.log.refuses now (LogSearch.ofPage f size page).filter = true := by
    rw [RequestLog.refuses, Bool.and_eq_true]
    exact fun refused ↦ LogFilter.not_isTooLong short refused.1
  rw [searchLog, if_neg (consistent_of_searchable searchable size page), if_neg fits,
    if_neg answered]
  refine ⟨_, rfl, rfl, rfl, ?_⟩
  rw [← RequestLog.count_eq_length recent]
  rfl

/-- Reads of successive pages are answered with successive parts of the list of all that is
found. -/
private theorem responses_of_asks (searchable : Searchable f)
    (short : ∀ t, f.search = some t → t.utf8ByteSize ≤ 49998)
    (asks : ∀ (k : Nat) (x : Int × Request), reads[k]? = some x →
      x.2.Asks (LogSearch.ofPage f size (page + k)))
    (recent : ∀ x ∈ reads, s.log.IsRecent f x.1) :
    (s.responses reads).flatMap Response.items =
        (((s.log.listing f).drop (page * size)).take (reads.length * size)).map LogEntry.toValue ∧
      ∀ response ∈ s.responses reads, response.Reports (s.log.listing f).length := by
  induction reads generalizing page with
  | nil =>
    rw [List.length_nil, Nat.zero_mul, List.take_zero]
    exact ⟨rfl, fun _ h ↦ nomatch h⟩
  | cons x rest ih =>
    have now := recent x List.mem_cons_self
    have here : x.2.Asks (LogSearch.ofPage f size page) := asks 0 x rfl
    obtain ⟨response, answered, items, reports⟩ := searchLog_ofPage searchable short here now
    have later (k : Nat) (y : Int × Request) (place : rest[k]? = some y) :
        y.2.Asks (LogSearch.ofPage f size (page + 1 + k)) := by
      rw [Nat.add_assoc, Nat.add_comm 1 k]
      exact asks (k + 1) y place
    obtain ⟨restItems, restReports⟩ :=
      ih later fun y mem ↦ recent y (List.mem_cons_of_mem x mem)
    rw [responses, handle_of_asks here answered]
    constructor
    · rw [List.flatMap_cons, items, restItems, ← List.map_append,
        RequestLog.page_append_take now, List.length_cons, Nat.succ_mul, Nat.add_comm size]
    · exact List.forall_mem_cons.mpr ⟨reports, restReports⟩

/-- Whoever reads the pages of a search one after another, until there are as many as the entries
that are found need, is shown exactly these entries, each once, newest first, and is told their
number with every page. Every page that starts before their end can be asked for. The term must not
be too long for a pattern. -/
theorem pages_of_search (keyed : s.log.Keyed) (searchable : Searchable f)
    (short : ∀ t, f.search = some t → t.utf8ByteSize ≤ 49998)
    (sized : 1 ≤ size ∧ size ≤ 1000) (recent : ∀ x ∈ reads, s.log.IsRecent f x.1)
    (asks : ∀ (k : Nat) (x : Int × Request), reads[k]? = some x →
      x.2.Asks (LogSearch.ofPage f size k)) :
    ∃ found, s.log.Lists f found ∧
      (∀ k, k * size ≤ found.length → ∃ r : Request, r.Asks (LogSearch.ofPage f size k)) ∧
      (found.length ≤ reads.length * size →
        List.Forall₂ LogEntry.ShownBy found ((s.responses reads).flatMap Response.items)) ∧
      ∀ response ∈ s.responses reads, response.Reports found.length := by
  have start (k : Nat) (x : Int × Request) (place : reads[k]? = some x) :
      x.2.Asks (LogSearch.ofPage f size (0 + k)) :=
    (Nat.zero_add k).symm ▸ asks k x place
  obtain ⟨items, reports⟩ := responses_of_asks searchable short start recent
  rw [Nat.zero_mul, List.drop_zero] at items
  refine ⟨s.log.listing f, RequestLog.lists_listing keyed f, fun k inside ↦ ?_, fun enough ↦ ?_,
    reports⟩
  · refine LogSearch.exists_asks searchable ?_ (Int.natCast_nonneg _) ?_
    · exact ⟨Int.ofNat_le.mpr sized.1, Int.ofNat_le.mpr sized.2⟩
    · have all := keyed.length_fits
      have few := s.log.length_listing_le f
      rw [Store.idFits_iff] at all ⊢
      dsimp only [LogSearch.ofPage]
      omega
  · rw [items, List.take_of_length_le enough]
    exact LogEntry.forall₂_shownBy _

/-- A record of a request for a path. -/
private def recordOf (time : Int) (path : String) (status : Int) : LogRecord :=
  ⟨time, "GET", path, status, none, none, none, some "operator", none, none⟩

/-- A service that has answered four requests, three of them at one time. -/
def busy : Service :=
  { blank with log := .ofRecords [recordOf 10 "/api/tables/configs/7" 404,
      recordOf 10 "/api/tables/objects" 200, recordOf 10 "/api/tables/query" 422,
      recordOf 20 "/api/Tables/render" 500] }

/-- A search for what went wrong with tables. -/
def tableFailures : LogFilter := ⟨24, some 400, none, some "/tab_es"⟩

/-- Reads of two pages of two entries, some time apart. -/
def failureReads : List (Int × Request) :=
  [(30, ⟨"GET", "/api/logs/", (LogSearch.ofPage tableFailures 2 0).toQuery, "", none⟩),
    (40, ⟨"GET", "/api/logs/", (LogSearch.ofPage tableFailures 2 1).toQuery, "", none⟩)]

/-- What went wrong with tables, newest first. -/
def failures : List LogEntry :=
  [⟨4, recordOf 20 "/api/Tables/render" 500⟩, ⟨3, recordOf 10 "/api/tables/query" 422⟩,
    ⟨1, recordOf 10 "/api/tables/configs/7" 404⟩]

private theorem lists_failures : busy.log.Lists tableFailures failures := by
  have kept : busy.log.entries.filter tableFailures.fits =
      [⟨1, recordOf 10 "/api/tables/configs/7" 404⟩, ⟨3, recordOf 10 "/api/tables/query" 422⟩,
        ⟨4, recordOf 20 "/api/Tables/render" 500⟩] := by
    decide +kernel
  refine RequestLog.lists_of_perm ?_ ?_
  · rw [kept]
    exact (List.reverse_perm _).symm
  · simp [failures, LogEntry.Newer, recordOf]

theorem pages_of_tableFailures :
    List.Forall₂ LogEntry.ShownBy failures
      ((busy.responses failureReads).flatMap Response.items) ∧
    failures.map LogEntry.id = [4, 3, 1] ∧
    ∀ response ∈ busy.responses failureReads,
      response.status = 200 ∧ response.headers.get? "x-total-count" = some "3" := by
  have searchable : Searchable tableFailures := by
    refine ⟨by decide, ?_, ?_, ?_⟩
    · rintro _ ⟨⟩
      decide
    · exact fun _ h ↦ nomatch h
    · exact fun _ _ _ h ↦ nomatch h
  have short (t : String) (given : tableFailures.search = some t) : t.utf8ByteSize ≤ 49998 := by
    cases given
    decide
  have recent : ∀ x ∈ failureReads, busy.log.IsRecent tableFailures x.1 := by
    unfold RequestLog.IsRecent
    decide
  have asks (k : Nat) (x : Int × Request) (place : failureReads[k]? = some x) :
      x.2.Asks (LogSearch.ofPage tableFailures 2 k) := by
    have query (page : Nat) (fits : Store.idFits (page * 2 : Nat) = true) :
        LogSearch.ofQuery (LogSearch.ofPage tableFailures 2 page).toQuery =
          .ok (LogSearch.ofPage tableFailures 2 page) :=
      LogSearch.ofQuery_toQuery searchable
        ⟨show (1 : Int) ≤ 2 by decide, show (2 : Int) ≤ 1000 by decide⟩ (Int.natCast_nonneg _) fits
    rcases k with _ | _ | k
    · cases place
      exact ⟨rfl, rfl, query 0 (by decide), by decide⟩
    · cases place
      exact ⟨rfl, rfl, query 1 (by decide), by decide⟩
    · cases place
  obtain ⟨found, lists, -, all, reports⟩ := pages_of_search
    (RequestLog.keyed_ofRecords (by decide)) searchable short (by decide) recent asks
  rw [lists.unique lists_failures] at all reports
  exact ⟨all (by decide), rfl, fun response mem ↦ ⟨(reports response mem).status,
    (reports response mem).total⟩⟩

/-- A term of one byte more than a pattern has room for. -/
def longTerm : String := String.ofList (List.replicate 49999 'a')

private theorem utf8ByteSize_longTerm : longTerm.utf8ByteSize = 49999 := by
  have size (n : Nat) : (String.ofList (List.replicate n 'a')).utf8ByteSize = n := by
    induction n with
    | zero => rfl
    | succ n ih =>
      rw [List.replicate_succ, String.ofList_cons, String.utf8ByteSize_append, ih, Nat.add_comm]
      rfl
  exact size 49999

/-- The search for that term among the entries of the last day. -/
def longSearch : LogFilter := ⟨24, none, none, some longTerm⟩

/-- A search for such a term breaks down as soon as there is an entry to compare with it. It is not
answered with a page, and the number of entries that have the term, if any, is not told. -/
theorem exists_search_breaks_down : ∃ (s : Service) (f : LogFilter) (now : Int) (r : Request),
    s.log.Keyed ∧ s.log.IsRecent f now ∧ Searchable f ∧ f.search = some longTerm ∧
    r.Asks (LogSearch.ofPage f 50 0) ∧ (s.handle now r).1.status = 500 ∧
    ∀ total, ¬ (s.handle now r).1.Reports total := by
  have searchable : Searchable longSearch := by
    refine ⟨by decide, ?_, ?_, ?_⟩
    · intro x given
      cases given
    · intro x given
      cases given
    · intro x y given
      cases given
  have sized : (1 : Int) ≤ 50 ∧ (50 : Int) ≤ 1000 := by decide
  have asked : ∃ r : Request, r.Asks (LogSearch.ofPage longSearch 50 0) :=
    LogSearch.exists_asks searchable sized (Int.natCast_nonneg _) (by decide)
  obtain ⟨r, asks⟩ := asked
  have long : longSearch.isTooLong = true := by
    refine LogFilter.isTooLong_iff.mpr ⟨longTerm, rfl, ?_⟩
    rw [utf8ByteSize_longTerm]
    decide
  have refused : searchLog busy.log 30 (LogSearch.ofPage longSearch 50 0) =
      .error patternTooLong := by
    have looked : busy.log.refuses 30 longSearch = true := by
      rw [RequestLog.refuses, long]
      decide
    have fits : ¬ (!Store.idFits (LogSearch.ofPage longSearch 50 0).offset) = true := by decide
    rw [searchLog, if_neg (consistent_of_searchable searchable 50 0), if_neg fits]
    exact if_pos looked
  have response : (busy.handle 30 r).1 = patternTooLong.response := by
    rw [handle, answer_of_asks asks, refused]
    exact sentTo_of_asks asks _
  refine ⟨busy, longSearch, 30, r, RequestLog.keyed_ofRecords (by decide), ?_, searchable, rfl,
    asks, ?_, fun total reports ↦ ?_⟩
  · unfold RequestLog.IsRecent
    decide
  · rw [response]
    rfl
  · rw [response] at reports
    cases reports.status

end Service

end Api

end TableView
