import Mathlib.Data.List.Nodup
import TableView.Proofs.Grid.Sorting

/-!
# Rows and their keys

A grid holds the rows of the result it was loaded with, in whatever order they were sorted since. If
the result has an `Id` column the rows are as they were fetched. If it has none each row is given a
key by its position, and the keys are distinct and stay with their rows, because sorts move rows
and never write into them.

The key is written into the row, under a name that a fetched column may have as well. So what was
fetched is kept cell by cell unless the result has a column of this name and no `Id` column
(`rows_of_sorts`); then the key takes the place of the cell that was fetched.
-/

namespace TableView

namespace Entries

variable {α : Type}

/-- The entries with given keys. -/
def only (names : List String) (m : Entries α) : Entries α := m.filter (·.1 ∈ names)

/-- The entries with other keys than the given one. -/
def without (key : String) (m : Entries α) : Entries α := m.filter (·.1 ≠ key)

theorem without_put (m : Entries α) (key : String) (a : α) :
    (m.put key a).without key = m.without key := by
  induction m with
  | nil => simp [put, without]
  | cons e rest ih =>
    rw [put]
    split
    · next same => simp [without, same]
    · next other =>
      simp only [without, List.filter_cons] at ih ⊢
      rw [ih]

theorem only_without {names : List String} {key : String} (h : key ∉ names) (m : Entries α) :
    (m.without key).only names = m.only names := by
  rw [only, without, List.filter_filter, only]
  refine List.filter_congr fun e _ ↦ ?_
  by_cases named : e.1 ∈ names
  · have other : e.1 ≠ key := fun same ↦ h (same ▸ named)
    simp [named, other]
  · simp [named]

/-- An assignment to another key leaves the entries with the given keys as they are. -/
theorem only_put {names : List String} {key : String} (h : key ∉ names) (m : Entries α) (a : α) :
    (m.put key a).only names = m.only names := by
  rw [← only_without h, without_put, only_without h]

theorem only_eq_self {names : List String} {m : Entries α} (h : ∀ e ∈ m, e.1 ∈ names) :
    m.only names = m :=
  List.filter_eq_self.mpr fun e he ↦ decide_eq_true (h e he)

end Entries

namespace Grid

/-- The grid after sorts by some columns, one after another. -/
def sortAll (g : Grid) (sorts : List (String × Direction)) : Grid :=
  sorts.foldl (fun g s ↦ g.sort s.1 s.2) g

theorem sortAll_perm (g : Grid) (sorts : List (String × Direction)) :
    (g.sortAll sorts).rows.Perm g.rows := by
  induction sorts generalizing g with
  | nil => exact .refl _
  | cons s rest ih => exact (ih (g.sort s.1 s.2)).trans (sort_perm g s.1 s.2)

theorem keyColumn_sortAll (g : Grid) (sorts : List (String × Direction)) :
    (g.sortAll sorts).keyColumn = g.keyColumn := by
  induction sorts generalizing g with
  | nil => rfl
  | cons s rest ih => exact ih (g.sort s.1 s.2)

/-! ### Keys by position -/

theorem numberRows_eq (position : Nat) (rows : List Row) :
    numberRows position rows = (rows.zipIdx position).map fun e ↦
      Entries.put e.1 synthesizedColumn (synthesizedKey e.2) := by
  induction rows generalizing position with
  | nil => rfl
  | cons row rest ih => rw [numberRows, ih, List.zipIdx_cons, List.map_cons]

theorem synthesizedKey_injective : Function.Injective synthesizedKey := by
  intro i j same
  rw [synthesizedKey, synthesizedKey, Value.text.injEq, String.append_right_inj] at same
  have digits : Nat.toDigits 10 i = Nat.toDigits 10 j := String.ofList_injective same
  rw [← Nat.ofDigitChars_ten_toDigits (n := i), digits, Nat.ofDigitChars_ten_toDigits]

/-- A row with its key, and the cells that are not the key. -/
def keyed (row : Row) : Value × Row :=
  ((Entries.get? row synthesizedColumn).getD .null, row.without synthesizedColumn)

theorem keyed_put (row : Row) (key : Value) :
    keyed (Entries.put row synthesizedColumn key) = (key, row.without synthesizedColumn) := by
  rw [keyed, Entries.without_put, Entries.get?_put, if_pos rfl, Option.getD_some]

theorem map_keyed_numberRows (rows : List Row) :
    (numberRows 0 rows).map keyed =
      rows.zipIdx.map fun e ↦ (synthesizedKey e.2, e.1.without synthesizedColumn) := by
  rw [numberRows_eq, List.map_map]
  exact List.map_congr_left fun e _ ↦ keyed_put e.1 _

theorem nodup_keys (rows : List Row) :
    ((rows.zipIdx.map fun e ↦ (synthesizedKey e.2, e.1.without synthesizedColumn)).map
      Prod.fst).Nodup := by
  have keys : (rows.zipIdx.map fun e ↦ (synthesizedKey e.2, e.1.without synthesizedColumn)).map
      Prod.fst = (rows.zipIdx.map Prod.snd).map synthesizedKey := by
    rw [List.map_map, List.map_map]
    rfl
  rw [keys, List.zipIdx_map_snd]
  exact (List.nodup_range' 1).map synthesizedKey_injective

/-! ### Rows of a result -/

variable {columns : List Column} (rows : List Row) (overrides : Entries String)
  (sorts : List (String × Direction))

private theorem any_idColumn_iff :
    columns.any (·.name == idColumn) = true ↔ idColumn ∈ columns.map Column.name := by
  rw [List.any_eq_true, List.mem_map]
  simp only [beq_iff_eq]

theorem rows_load_of_id (h : idColumn ∈ columns.map Column.name) :
    (load ⟨columns, rows⟩ overrides).rows = rows := by
  rw [load, if_pos (any_idColumn_iff.mpr h)]

theorem rows_load_of_no_id (h : idColumn ∉ columns.map Column.name) :
    (load ⟨columns, rows⟩ overrides).rows = numberRows 0 rows := by
  rw [load, if_neg (any_idColumn_iff.not.mpr h)]

theorem keyColumn_load_of_no_id (h : idColumn ∉ columns.map Column.name) :
    (load ⟨columns, rows⟩ overrides).keyColumn = synthesizedColumn := by
  rw [load, if_neg (any_idColumn_iff.not.mpr h)]

/-- Rows that are given keys keep their cells in the columns of other names. -/
theorem map_only_numberRows {names : List String} (h : synthesizedColumn ∉ names) :
    (numberRows 0 rows).map (Entries.only names) = rows.map (Entries.only names) := by
  calc (numberRows 0 rows).map (Entries.only names)
    _ = rows.zipIdx.map fun e ↦ e.1.only names := by
      rw [numberRows_eq, List.map_map]
      exact List.map_congr_left fun e _ ↦ Entries.only_put h e.1 _
    _ = (rows.zipIdx.map Prod.fst).map (Entries.only names) := by rw [List.map_map]; rfl
    _ = rows.map (Entries.only names) := by rw [List.zipIdx_map_fst]

/-- What is held of the columns of a result is what was fetched, if no key is written over it. -/
theorem only_sortAll_perm
    (h : idColumn ∈ columns.map Column.name ∨ synthesizedColumn ∉ columns.map Column.name) :
    (((load ⟨columns, rows⟩ overrides).sortAll sorts).rows.map
      (Entries.only (columns.map Column.name))).Perm
        (rows.map (Entries.only (columns.map Column.name))) := by
  refine ((sortAll_perm _ sorts).map _).trans ?_
  by_cases id : idColumn ∈ columns.map Column.name
  · rw [rows_load_of_id rows overrides id]
  · rw [rows_load_of_no_id rows overrides id, map_only_numberRows rows (h.resolve_left id)]

/-- The keys that rows are given come with them through all sorts. -/
theorem zip_rowKeys_perm (h : idColumn ∉ columns.map Column.name) :
    let held := (load ⟨columns, rows⟩ overrides).sortAll sorts
    (held.rowKeys.zip (held.rows.map (Entries.without synthesizedColumn))).Perm
      (rows.zipIdx.map fun e ↦ (synthesizedKey e.2, e.1.without synthesizedColumn)) := by
  intro held
  have together : held.rowKeys.zip (held.rows.map (Entries.without synthesizedColumn)) =
      held.rows.map keyed := by
    rw [rowKeys, keyColumn_sortAll, keyColumn_load_of_no_id rows overrides h, List.zip_map']
    rfl
  rw [together, ← map_keyed_numberRows, ← rows_load_of_no_id rows overrides h]
  exact (sortAll_perm _ sorts).map keyed

theorem nodup_rowKeys (h : idColumn ∉ columns.map Column.name) :
    ((load ⟨columns, rows⟩ overrides).sortAll sorts).rowKeys.Nodup := by
  have keys := (zip_rowKeys_perm rows overrides sorts h).map Prod.fst
  rw [List.map_fst_zip (by simp [rowKeys])] at keys
  exact keys.nodup_iff.mpr (nodup_keys rows)

/-- After any sorts the rows are the fetched ones in some order, cell by cell in the columns of the
result, whatever was fetched: exactly if the result has an `Id` column or none of the name that keys
are written under. With an `Id` column the rows are as they were fetched; without one their keys are
distinct, and each belongs to the row that was fetched at its position. -/
theorem rows_of_sorts (columns : List Column) :
    let names := columns.map Column.name
    ((∀ rows overrides sorts,
        (((load ⟨columns, rows⟩ overrides).sortAll sorts).rows.map (Entries.only names)).Perm
          (rows.map (Entries.only names))) ↔
      idColumn ∈ names ∨ synthesizedColumn ∉ names) ∧
    (∀ row : Row, (∀ e ∈ row, e.1 ∈ names) → row.only names = row) ∧
    ∀ rows overrides sorts,
      let held := (load ⟨columns, rows⟩ overrides).sortAll sorts
      (idColumn ∈ names → held.rows.Perm rows) ∧
      (idColumn ∉ names →
        held.rowKeys.Nodup ∧
        (held.rowKeys.zip (held.rows.map (Entries.without synthesizedColumn))).Perm
          (rows.zipIdx.map fun e ↦ (synthesizedKey e.2, e.1.without synthesizedColumn))) := by
  intro names
  refine ⟨⟨fun kept ↦ ?_, fun h rows overrides sorts ↦ only_sortAll_perm rows overrides sorts h⟩,
    fun row h ↦ Entries.only_eq_self h, ?_⟩
  · by_contra written
    obtain ⟨noId, named⟩ := not_or.mp written
    have single (v : Value) :
        Entries.only names [(synthesizedColumn, v)] = [(synthesizedColumn, v)] :=
      Entries.only_eq_self fun e he ↦ List.mem_singleton.mp he ▸ not_not.mp named
    have row := kept [[(synthesizedColumn, .null)]] [] []
    rw [sortAll, List.foldl_nil, rows_load_of_no_id _ _ noId, List.map_singleton,
      List.perm_singleton, numberRows, numberRows, List.map_singleton, Entries.put, if_pos rfl,
      single, single] at row
    cases row
  · intro rows overrides sorts held
    refine ⟨fun id ↦ ?_, fun noId ↦ ⟨nodup_rowKeys rows overrides sorts noId, ?_⟩⟩
    · exact (sortAll_perm _ sorts).trans (.of_eq (rows_load_of_id rows overrides id))
    · exact zip_rowKeys_perm rows overrides sorts noId

/-- A result without an `Id` column. One of its cells reads like a key. -/
def keylessResult : QueryResult :=
  ⟨[⟨"Name", "Name", true⟩],
    [[("Name", .text "row-1")], [("Name", .text "b")], [("Name", .text "b")]]⟩

theorem rows_of_sorts_keyless :
    let held := (load keylessResult []).sortAll [("Name", .descending), ("_rowKey", .descending)]
    (held.rows.map (Entries.only ["Name"])).Perm keylessResult.rows ∧
    held.rowKeys.Nodup ∧
    (held.rowKeys.zip (held.rows.map (Entries.without synthesizedColumn))).Perm
      [(.text "row-0", [("Name", .text "row-1")]), (.text "row-1", [("Name", .text "b")]),
        (.text "row-2", [("Name", .text "b")])] ∧
    ((load ⟨[⟨"Id", "Id", true⟩], [[("Id", .text "b")], [("Id", .text "a")]]⟩ []).sortAll
      [("Id", .ascending)]).rows.Perm [[("Id", .text "b")], [("Id", .text "a")]] := by
  have noId : idColumn ∉ keylessResult.columns.map Column.name := by decide
  have noKey : synthesizedColumn ∉ keylessResult.columns.map Column.name := by decide
  obtain ⟨cells, tabular, keys⟩ := rows_of_sorts keylessResult.columns
  have kept := cells.mpr (.inr noKey) keylessResult.rows []
    [("Name", .descending), ("_rowKey", .descending)]
  obtain ⟨distinct, together⟩ := (keys keylessResult.rows []
    [("Name", .descending), ("_rowKey", .descending)]).2 noId
  have named : ∀ row ∈ keylessResult.rows, ∀ e ∈ row,
      e.1 ∈ keylessResult.columns.map Column.name := by decide
  have whole : keylessResult.rows.map (Entries.only ["Name"]) = keylessResult.rows :=
    (List.map_congr_left fun row mem ↦ tabular row (named row mem)).trans (List.map_id _)
  have withId := ((rows_of_sorts [⟨"Id", "Id", true⟩]).2.2 [[("Id", .text "b")],
    [("Id", .text "a")]] [] [("Id", .ascending)]).1 (by decide)
  exact ⟨kept.trans (.of_eq whole), distinct, together, withId⟩

/-- A fetched cell gives way to a key, in a result that has a column of the name that keys are
written under and no `Id` column. -/
theorem exists_fetched_cell_overwritten :
    ∃ result : QueryResult,
      (∀ row ∈ result.rows, row.map Prod.fst = result.columns.map Column.name) ∧
      ¬ ((load result []).rows.map (Entries.only (result.columns.map Column.name))).Perm
        result.rows := by
  refine ⟨⟨[⟨"_rowKey", "Key", true⟩, ⟨"Name", "Name", true⟩],
    [[("_rowKey", .text "K7"), ("Name", .text "Acme")]]⟩, by decide, fun same ↦ ?_⟩
  have cell := congrArg (List.map fun row ↦ row.map fun e ↦ e.2.toText) same.eq_singleton
  revert cell
  decide

end Grid

end TableView
