import Mathlib.Data.Finset.Card
import Mathlib.Order.Interval.Finset.Nat
import TableView.Proofs.RequestLog.Pattern
import TableView.Store.Basic

/-!
# What a search of the log lists

The numbers of the entries are keys, so the order of a search, by time and then by number, is strict
(`LogEntry.Newer`): it has one place for every entry. As long as no entry is older than a search
looks back, what it finds does not depend on the time, and it is exactly the entries that fit, each
once (`lists_listing`), of which there is one list only (`Lists.unique`). Successive pages of any
size then cut this list (`page_append_take`).
-/

namespace TableView

theorem Store.idFits_iff (id : Int) :
    Store.idFits id = true ↔ -9223372036854775808 ≤ id ∧ id ≤ 9223372036854775807 := by
  rw [Store.idFits, Bool.and_eq_true, decide_eq_true_eq, decide_eq_true_eq]

/-- The entry comes before the other one when the newest is first. -/
def LogEntry.Newer (a b : LogEntry) : Prop :=
  b.record.time < a.record.time ∨ a.record.time = b.record.time ∧ b.id < a.id

namespace LogFilter

/-- The term occurs in the path, the method, the name of the user, the kind of the error or the
digits of the status. -/
def OccursIn (term : String) (e : LogEntry) : Prop :=
  Occurs term e.record.path ∨ Occurs term e.record.method ∨
    (∃ name, e.record.username = some name ∧ Occurs term name) ∨
    (∃ kind, e.record.errorType = some kind ∧ Occurs term kind) ∨
    Occurs term (toString e.record.status)

/-- The entry fits the filter, whenever it was made: its status is in the range, and the term occurs
in one of its texts, unless it is empty. -/
structure Matches (f : LogFilter) (e : LogEntry) : Prop where
  low : ∀ n, f.statusMin = some n → n ≤ e.record.status
  high : ∀ n, f.statusMax = some n → e.record.status ≤ n
  term : ∀ t, f.search = some t → t = "" ∨ OccursIn t e

/-- Whether an entry fits the filter. -/
def fits (f : LogFilter) (e : LogEntry) : Bool := f.inRange e && f.hasTerm e

theorem inRange_iff (f : LogFilter) (e : LogEntry) : f.inRange e = true ↔
    (∀ n, f.statusMin = some n → n ≤ e.record.status) ∧
      ∀ n, f.statusMax = some n → e.record.status ≤ n := by
  rw [inRange, Bool.and_eq_true, Option.all_eq_true, Option.all_eq_true]
  simp only [decide_eq_true_eq]

theorem exists_occurs_iff (term : String) (e : LogEntry) :
    (∃ text ∈ searchedTexts e, patternOccurs term text = true) ↔ OccursIn term e := by
  simp [searchedTexts, OccursIn, patternOccurs_iff, or_and_right, exists_or]

theorem hasTerm_iff (f : LogFilter) (e : LogEntry) : f.hasTerm e = true ↔
    ∀ t, f.search = some t → t = "" ∨ OccursIn t e := by
  rw [hasTerm]
  cases f.search with
  | none => exact iff_of_true rfl fun t h ↦ nomatch h
  | some term => simp [← exists_occurs_iff]

theorem isTooLong_iff {f : LogFilter} :
    f.isTooLong = true ↔ ∃ t, f.search = some t ∧ maxPatternBytes < t.utf8ByteSize + 2 := by
  rw [isTooLong, Option.any_eq_true]
  exact exists_congr fun t ↦ and_congr_right' decide_eq_true_iff

/-- Of a term of so few bytes a pattern can be made, with a sign before and after it. -/
theorem not_isTooLong {f : LogFilter}
    (short : ∀ t, f.search = some t → t.utf8ByteSize ≤ 49998) : ¬ f.isTooLong = true := by
  rw [isTooLong_iff]
  rintro ⟨t, given, less⟩
  have most := short t given
  rw [maxPatternBytes] at less
  omega

theorem fits_iff (f : LogFilter) (e : LogEntry) : f.fits e = true ↔ f.Matches e := by
  rw [fits, Bool.and_eq_true, inRange_iff, hasTerm_iff]
  exact ⟨fun ⟨⟨low, high⟩, term⟩ ↦ ⟨low, high, term⟩, fun h ↦ ⟨⟨h.low, h.high⟩, h.term⟩⟩

end LogFilter

namespace RequestLog

/-- The numbers of the entries are keys of a table: positive, in the range of its key column, and
none is used twice. -/
structure Keyed (log : RequestLog) : Prop where
  distinct : (log.entries.map LogEntry.id).Nodup
  positive : ∀ e ∈ log.entries, 0 < e.id
  bounded : ∀ e ∈ log.entries, Store.idFits e.id = true

/-- The list has exactly the entries that fit the filter, each once, newest first. -/
structure Lists (log : RequestLog) (f : LogFilter) (found : List LogEntry) : Prop where
  mem_iff : ∀ e, e ∈ found ↔ e ∈ log.entries ∧ f.Matches e
  nodup : found.Nodup
  newest : found.Pairwise LogEntry.Newer

/-- The entries that fit a filter, newest first. -/
def listing (log : RequestLog) (f : LogFilter) : List LogEntry :=
  (log.entries.filter f.fits).mergeSort LogEntry.newestFirst

/-- No entry is older than the filter looks back. -/
def IsRecent (log : RequestLog) (f : LogFilter) (now : Int) : Prop :=
  ∀ e ∈ log.entries, f.inWindow now e = true

variable {log : RequestLog} {f : LogFilter} {now : Int}

/-! ### Keys -/

/-- There are no more entries than keys. -/
theorem Keyed.length_fits (keyed : log.Keyed) : Store.idFits log.entries.length = true := by
  have inside : (log.entries.map LogEntry.id).toFinset ⊆ Finset.Icc 1 9223372036854775807 := by
    intro id mem
    obtain ⟨e, entry, rfl⟩ := List.mem_map.mp (List.mem_toFinset.mp mem)
    have bounded := (Store.idFits_iff _).mp (keyed.bounded e entry)
    have positive := keyed.positive e entry
    exact Finset.mem_Icc.mpr ⟨positive, by omega⟩
  have few := Finset.card_le_card inside
  rw [List.toFinset_card_of_nodup keyed.distinct, List.length_map, Nat.card_Icc] at few
  exact (Store.idFits_iff _).mpr (by omega)

private theorem ids_foldl_add (records : List LogRecord) (log : RequestLog) :
    (records.foldl add log).entries.map LogEntry.id =
      log.entries.map LogEntry.id ++ List.range' (log.entries.length + 1) records.length := by
  induction records generalizing log with
  | nil => exact (List.append_nil _).symm
  | cons r rest ih =>
    have next : (r :: rest).length = rest.length + 1 := rfl
    rw [List.foldl_cons, ih, add, List.map_append, List.length_append, List.append_assoc, next,
      List.range'_succ]
    rfl

/-- The numbers under which records are kept are keys, as long as there are keys. -/
theorem keyed_ofRecords {records : List LogRecord} (room : Store.idFits records.length = true) :
    (ofRecords records).Keyed := by
  have ids : (ofRecords records).entries.map LogEntry.id = List.range' 1 records.length := by
    rw [ofRecords, ids_foldl_add]
    rfl
  have inside {e : LogEntry} (mem : e ∈ (ofRecords records).entries) :
      1 ≤ e.id ∧ e.id < 1 + records.length := by
    have range := List.mem_map_of_mem (f := LogEntry.id) mem
    rw [ids] at range
    exact List.mem_range'_1.mp range
  refine ⟨ids ▸ List.nodup_range', fun e mem ↦ (inside mem).1, fun e mem ↦ ?_⟩
  have last := (inside mem).2
  rw [Store.idFits_iff] at room ⊢
  omega

/-! ### Order -/

private theorem newestFirst_iff (a b : LogEntry) : a.newestFirst b = true ↔
    b.record.time < a.record.time ∨ a.record.time = b.record.time ∧ b.id ≤ a.id := by
  simp [LogEntry.newestFirst]

private theorem newestFirst_trans (a b c : LogEntry) (first : a.newestFirst b = true)
    (second : b.newestFirst c = true) : a.newestFirst c = true := by
  rw [newestFirst_iff] at first second ⊢
  omega

private theorem newestFirst_total (a b : LogEntry) :
    (a.newestFirst b || b.newestFirst a) = true := by
  rw [Bool.or_eq_true, newestFirst_iff, newestFirst_iff]
  omega

private theorem newer_of_newestFirst {a b : LogEntry} (h : a.newestFirst b = true)
    (other : a.id ≠ b.id) : a.Newer b := by
  rw [newestFirst_iff] at h
  rw [LogEntry.Newer]
  omega

/-! ### Listings -/

/-- A list of the entries that fit a filter, in whatever way it was made. -/
theorem lists_of_perm {found : List LogEntry} (perm : found.Perm (log.entries.filter f.fits))
    (newest : found.Pairwise LogEntry.Newer) : log.Lists f found where
  mem_iff e := by rw [perm.mem_iff, List.mem_filter, LogFilter.fits_iff]
  nodup := newest.imp fun h ↦ by
    rintro rfl
    rw [LogEntry.Newer] at h
    omega
  newest := newest

private theorem newer_asymm {a b : LogEntry} (h : a.Newer b) (h' : b.Newer a) : a = b := by
  rw [LogEntry.Newer] at h h'
  omega

theorem Lists.unique {found others : List LogEntry} (h : log.Lists f found)
    (h' : log.Lists f others) : found = others := by
  have perm : found.Perm others := by
    rw [List.perm_ext_iff_of_nodup h.nodup h'.nodup]
    exact fun e ↦ (h.mem_iff e).trans (h'.mem_iff e).symm
  exact perm.eq_of_pairwise (fun _ _ _ _ ↦ newer_asymm) h.newest h'.newest

theorem lists_listing (keyed : log.Keyed) (f : LogFilter) : log.Lists f (log.listing f) := by
  have perm : (log.listing f).Perm (log.entries.filter f.fits) := List.mergeSort_perm ..
  have ids : ((log.entries.filter f.fits).map LogEntry.id).Nodup :=
    keyed.distinct.sublist (List.filter_sublist.map _)
  have distinct : (log.listing f).Pairwise fun a b ↦ a.id ≠ b.id :=
    List.pairwise_map.mp ((perm.map LogEntry.id).nodup_iff.mpr ids)
  have sorted := List.pairwise_mergeSort newestFirst_trans newestFirst_total
    (log.entries.filter f.fits)
  refine lists_of_perm perm ?_
  exact (List.pairwise_and_iff.mpr ⟨sorted, distinct⟩).imp fun h ↦ newer_of_newestFirst h.1 h.2

private theorem filter_admits (recent : log.IsRecent f now) :
    log.entries.filter (f.admits now) = log.entries.filter f.fits := by
  refine List.filter_congr fun e mem ↦ ?_
  rw [LogFilter.admits, recent e mem, Bool.true_and, LogFilter.fits]

/-- While no entry is too old, a search lists the same at any time. -/
theorem found_eq_listing (recent : log.IsRecent f now) : log.found now f = log.listing f := by
  rw [found, filter_admits recent, listing]

/-- What is counted is what is listed. -/
theorem count_eq_length (recent : log.IsRecent f now) :
    log.count now f = (log.listing f).length := by
  rw [count, filter_admits recent, listing, List.length_mergeSort]

theorem length_listing_le (log : RequestLog) (f : LogFilter) :
    (log.listing f).length ≤ log.entries.length := by
  rw [listing, List.length_mergeSort]
  exact List.length_filter_le ..

/-- A page and as many entries as follow it on the next ones. -/
theorem page_append_take (recent : log.IsRecent f now) (size page more : Nat) :
    log.page now f (page * size) size ++ ((log.listing f).drop ((page + 1) * size)).take more =
      ((log.listing f).drop (page * size)).take (size + more) := by
  rw [RequestLog.page, found_eq_listing recent, List.take_add, List.drop_drop, Nat.succ_mul]

end RequestLog

end TableView
