import Mathlib.Algebra.Field.Rat
import Mathlib.Data.Prod.Lex
import Mathlib.Data.String.Basic
import Mathlib.Order.WithBot
import TableView.Grid
import TableView.Proofs.Entries

/-!
# Sorted rows

Cells are sorted in three groups: first those that hold nothing, then the numbers by their exact
values, whatever kind of number each is, then everything else by its text (`Value.place`). The keys
that a grid compares are in this order (`Value.place_eq`), which is a linear order of places, so
comparing them is total and transitive.

A sort is then described by three facts: the rows are permuted, they are in the order of their
places, and the rows of one place are in the order they had (`filter_sort`), also when the order of
the places is turned round. From the last one it follows that an earlier sort by another column
orders the rows that tie (`pairwise_of_filter_eq`).
-/

namespace TableView

open TableView.Number

/-! ### The exact values of numbers -/

/-- A ratio that is scaled by a power has the scaled value. -/
theorem Number.Ratio.scale_eq (n base : Nat) (exponent : Int) :
    ((scale n base exponent).num : ℚ) / ((scale n base exponent).den : ℚ) =
      n * (base : ℚ) ^ exponent := by
  cases exponent with
  | ofNat k => simp [scale]
  | negSucc k => simp [scale, zpow_negSucc, div_eq_mul_inv]

namespace Value

/-- Whether a cell holds nothing. -/
def holdsNothing : Value → Bool
  | null => true
  | text s => s = ""
  | _ => false

/-- Whether a value is a number that stands for none. -/
def isNan : Value → Bool
  | float .nan | decimal .nan => true
  | _ => false

/-- The exact value of a number; the infinite ones are beyond all others. -/
def quantity? : Value → Option (WithBot (WithTop ℚ))
  | int n => some ((n : ℚ) : WithTop ℚ)
  | float (.finite negative significand exponent) =>
    some (((if negative then -1 else 1) * (significand * 2 ^ exponent) : ℚ) : WithTop ℚ)
  | decimal (.finite negative coefficient exponent) =>
    some (((if negative then -1 else 1) * (coefficient * 10 ^ exponent) : ℚ) : WithTop ℚ)
  | float (.infinite negative) | decimal (.infinite negative) =>
    some (if negative then ⊥ else (⊤ : WithTop ℚ))
  | _ => none

/-- Places of cells: the group, then the exact value of a number, then the text of what is
neither empty nor a number. -/
abbrev Place : Type := ℕ ×ₗ WithBot (WithTop ℚ) ×ₗ String

/-- The place of a cell in the order of sorting. -/
def place (v : Value) : Place :=
  if v.holdsNothing then toLex (0, toLex (⊥, ""))
  else
    match v.quantity? with
    | some x => toLex (1, toLex (x, ""))
    | none => toLex (2, toLex (⊥, v.toText))

end Value

/-! ### Keys and places -/

namespace SortKey

/-- The place that a sort key stands for. -/
def place : SortKey → Value.Place
  | blank => toLex (0, toLex (⊥, ""))
  | lowest => toLex (1, toLex (⊥, ""))
  | number x => toLex (1, toLex ((x : WithTop ℚ), ""))
  | highest => toLex (1, toLex ((⊤ : WithTop ℚ), ""))
  | text s => toLex (2, toLex (⊥, s))

private theorem toLex_le_iff (i j : ℕ) (x y : WithBot (WithTop ℚ)) (s t : String) :
    (toLex (i, toLex (x, s)) : Value.Place) ≤ toLex (j, toLex (y, t)) ↔
      i < j ∨ i = j ∧ (x < y ∨ x = y ∧ s ≤ t) := by
  rw [Prod.Lex.toLex_le_toLex, Prod.Lex.toLex_le_toLex]

theorem le_iff (a b : SortKey) : a.le b = true ↔ a.place ≤ b.place := by
  cases a with
  | number x =>
    have finite : ((x : WithTop ℚ) : WithBot (WithTop ℚ)) < ⊤ :=
      WithBot.coe_lt_coe.mpr (WithTop.coe_lt_top x)
    cases b with
    | number y => simp [le, place, toLex_le_iff, ← le_iff_lt_or_eq]
    | _ => simp [le, rank, place, toLex_le_iff, finite]
  | _ => cases b <;> simp [le, rank, place, toLex_le_iff]

end SortKey

private theorem toRat_binary (negative : Bool) (significand : Nat) (exponent : Int) :
    Binary64.toRat negative significand exponent =
      (if negative then -1 else 1) * (significand * 2 ^ exponent) := by
  rw [Binary64.toRat, Binary64.magnitude, Ratio.scale_eq]
  cases negative <;> simp

private theorem toRat_decimal (negative : Bool) (coefficient : Nat) (exponent : Int) :
    Decimal.toRat negative coefficient exponent =
      (if negative then -1 else 1) * (coefficient * 10 ^ exponent) := by
  rw [Decimal.toRat, Ratio.scale_eq]
  cases negative <;> simp

/-- The place of a cell is that of its sort key. -/
theorem Value.place_eq {v : Value} (comparable : v.isNan = false) :
    v.place = (SortKey.ofValue v).place := by
  cases v with
  | text s => by_cases h : s = "" <;> simp [place, holdsNothing, quantity?, SortKey.ofValue, h,
      SortKey.place, toText]
  | float x =>
    cases x with
    | finite negative significand exponent =>
      simp [place, holdsNothing, quantity?, SortKey.ofValue, SortKey.place, toRat_binary]
    | infinite negative =>
      cases negative <;> simp [place, holdsNothing, quantity?, SortKey.ofValue, SortKey.place]
    | nan => cases comparable
  | decimal d =>
    cases d with
    | finite negative coefficient exponent =>
      simp [place, holdsNothing, quantity?, SortKey.ofValue, SortKey.place, toRat_decimal]
    | infinite negative =>
      cases negative <;> simp [place, holdsNothing, quantity?, SortKey.ofValue, SortKey.place]
    | nan => cases comparable
  | _ => simp [place, holdsNothing, quantity?, SortKey.ofValue, SortKey.place]

/-! ### Stable sorts -/

section Stable

variable {α : Type} {le : α → α → Bool}
  (trans : ∀ a b c, le a b = true → le b c = true → le a c = true)
  (total : ∀ a b, (le a b || le b a) = true) {items : List α}

include trans total

/-- Items of which none has to come before another one are in the same order before and after a
sort. -/
theorem filter_mergeSort {tie : α → Bool}
    (ties : ∀ a ∈ items, ∀ b ∈ items, tie a = true → tie b = true → le a b = true) :
    (items.mergeSort le).filter tie = items.filter tie := by
  have sorted : (items.filter tie).Pairwise fun a b ↦ le a b = true := by
    refine List.pairwise_of_forall_mem_list fun a ha b hb ↦ ?_
    rw [List.mem_filter] at ha hb
    exact ties a ha.1 b hb.1 ha.2 hb.2
  have kept := (List.sublist_mergeSort trans total sorted List.filter_sublist).filter tie
  simp only [List.filter_filter, Bool.and_self] at kept
  exact (kept.eq_of_length ((List.mergeSort_perm items le).filter tie).length_eq.symm).symm

end Stable

/-- If items that tie are in the same order as in a list that is in some order, they are in this
order too. -/
theorem pairwise_of_filter_eq {α β : Type} [DecidableEq β] {R : α → α → Prop} (key : α → β)
    {items sorted : List α} (order : items.Pairwise R)
    (same : ∀ k, sorted.filter (key · = k) = items.filter (key · = k)) :
    sorted.Pairwise fun a b ↦ key a = key b → R a b := by
  rw [List.pairwise_iff_forall_sublist] at order ⊢
  intro a b sub tie
  have kept := sub.filter (key · = key b)
  rw [same, List.filter_cons_of_pos (by simpa using tie), List.filter_cons_of_pos (by simp),
    List.filter_nil] at kept
  exact order (kept.trans List.filter_sublist)

namespace Grid

/-- The place of a row when rows are sorted by a column. A cell that is missing holds nothing. -/
def rowPlace (column : String) (row : Row) : Value.Place :=
  ((Entries.get? row column).getD .null).place

/-- Whether two rows may follow one another when rows are sorted by a column. -/
def InOrder (column : String) (direction : Direction) (a b : Row) : Prop :=
  match direction with
  | .ascending => rowPlace column a ≤ rowPlace column b
  | .descending => rowPlace column b ≤ rowPlace column a

/-- A row of cells that can be compared. -/
def Comparable (row : Row) : Prop := ∀ e ∈ row, e.2.isNan = false

variable {column : String} {direction : Direction} {a b : Row} {g : Grid}

theorem Comparable.rowPlace_eq (h : Comparable a) : rowPlace column a = (keyIn column a).place := by
  refine Value.place_eq ?_
  cases found : Entries.get? a column with
  | none => rfl
  | some v => exact h _ (Entries.mem_of_get? found)

theorem rowLe_iff (ha : Comparable a) (hb : Comparable b) :
    rowLe column direction a b = true ↔ InOrder column direction a b := by
  cases direction with
  | ascending => rw [rowLe, SortKey.le_iff, InOrder, ha.rowPlace_eq, hb.rowPlace_eq]
  | descending => rw [rowLe, SortKey.le_iff, InOrder, ha.rowPlace_eq, hb.rowPlace_eq]

theorem rowLe_trans (a b c : Row) (first : rowLe column direction a b = true)
    (second : rowLe column direction b c = true) : rowLe column direction a c = true := by
  cases direction with
  | ascending =>
    rw [rowLe, SortKey.le_iff] at *
    exact first.trans second
  | descending =>
    rw [rowLe, SortKey.le_iff] at *
    exact second.trans first

theorem rowLe_total (a b : Row) :
    (rowLe column direction a b || rowLe column direction b a) = true := by
  rw [Bool.or_eq_true]
  cases direction with
  | ascending =>
    rw [rowLe, rowLe, SortKey.le_iff, SortKey.le_iff]
    exact le_total _ _
  | descending =>
    rw [rowLe, rowLe, SortKey.le_iff, SortKey.le_iff]
    exact le_total _ _

theorem inOrder_of_tie (h : rowPlace column a = rowPlace column b) :
    InOrder column direction a b := by
  cases direction with
  | ascending => exact h.le
  | descending => exact h.ge

theorem sort_perm (g : Grid) (column : String) (direction : Direction) :
    (g.sort column direction).rows.Perm g.rows :=
  List.mergeSort_perm _ _

theorem pairwise_sort (comparable : ∀ row ∈ g.rows, Comparable row) :
    (g.sort column direction).rows.Pairwise (InOrder column direction) := by
  refine (List.pairwise_mergeSort rowLe_trans rowLe_total g.rows).imp_of_mem ?_
  intro a b ha hb le
  rw [List.mem_mergeSort] at ha hb
  exact (rowLe_iff (comparable a ha) (comparable b hb)).mp le

/-- Rows of one place keep their order, in whichever direction the rows are sorted. -/
theorem filter_sort (comparable : ∀ row ∈ g.rows, Comparable row) (p : Value.Place) :
    (g.sort column direction).rows.filter (rowPlace column · = p) =
      g.rows.filter (rowPlace column · = p) := by
  refine filter_mergeSort rowLe_trans rowLe_total fun a ha b hb here here' ↦ ?_
  refine (rowLe_iff (comparable a ha) (comparable b hb)).mpr (inOrder_of_tie ?_)
  exact (of_decide_eq_true here).trans (of_decide_eq_true here').symm

theorem sort_sort (g : Grid) (column : String) (direction : Direction) :
    (g.sort column direction).sort column direction = g.sort column direction := by
  have sorted : (g.sort column direction).rows.Pairwise fun a b ↦
      rowLe column direction a b = true :=
    List.pairwise_mergeSort rowLe_trans rowLe_total g.rows
  rw [sort]
  exact congrArg (fun rows ↦ { g.sort column direction with rows := rows })
    (List.mergeSort_of_pairwise sorted)

/-- Sorting permutes the rows. They are in the order of their places in the column, which is turned
round for the descending direction, and rows of one place keep the order they had; so rows that
were sorted by another column before are in the order of that one where they tie. To sort again
changes nothing. -/
theorem rows_of_sort (comparable : ∀ row ∈ g.rows, Comparable row) (column : String)
    (direction : Direction) :
    let sorted := g.sort column direction
    sorted.rows.Perm g.rows ∧
    sorted.rows.Pairwise (InOrder column direction) ∧
    (∀ p, sorted.rows.filter (rowPlace column · = p) = g.rows.filter (rowPlace column · = p)) ∧
    (∀ other towards, ((g.sort other towards).sort column direction).rows.Pairwise fun a b ↦
      InOrder column direction a b ∧
        (rowPlace column a = rowPlace column b → InOrder other towards a b)) ∧
    sorted.sort column direction = sorted := by
  refine ⟨sort_perm g column direction, pairwise_sort comparable, filter_sort comparable,
    fun other towards ↦ ?_, sort_sort g column direction⟩
  have comparable' : ∀ row ∈ (g.sort other towards).rows, Comparable row := fun row mem ↦
    comparable row ((sort_perm g other towards).mem_iff.mp mem)
  have ties : ((g.sort other towards).sort column direction).rows.Pairwise fun a b ↦
      rowPlace column a = rowPlace column b → InOrder other towards a b :=
    pairwise_of_filter_eq (rowPlace column) (pairwise_sort comparable) (filter_sort comparable')
  exact (pairwise_sort comparable').and ties

/-- Rows with cells of every group in one column: two numbers of equal value, two that are nearly
equal, and rows whose cell is missing, null or empty. -/
def mixedGrid : Grid :=
  load ⟨[⟨"Id", "Id", true⟩, ⟨"Size", "Size", true⟩],
    [[("Id", .text "a"), ("Size", .text "10")], [("Id", .text "b"), ("Size", .int 2)],
      [("Id", .text "c")], [("Id", .text "d"), ("Size", .decimal (.finite false 20 (-1)))],
      [("Id", .text "e"), ("Size", .float (.finite false 3602879701896397 (-55)))],
      [("Id", .text "f"), ("Size", .decimal (.finite false 1 (-1)))],
      [("Id", .text "g"), ("Size", .bool true)], [("Id", .text "h"), ("Size", .null)],
      [("Id", .text "i"), ("Size", .text "")]]⟩ []

theorem rows_of_sort_mixed :
    (∀ row ∈ mixedGrid.rows, Comparable row) ∧
    (mixedGrid.sort "Size" .descending).rows.Pairwise (InOrder "Size" .descending) ∧
    (((mixedGrid.sort "Size" .descending).rows.filter
      (rowPlace "Size" · = (Value.int 2).place)).flatMap fun row ↦ row.map fun e ↦ e.2.toText) =
      ["b", "2", "d", "2.0"] ∧
    (Value.decimal (.finite false 1 (-1))).place <
      (Value.float (.finite false 3602879701896397 (-55))).place := by
  have comparable : ∀ row ∈ mixedGrid.rows, Comparable row := by
    unfold Comparable
    decide +kernel
  obtain ⟨-, order, stable, -⟩ := rows_of_sort comparable "Size" .descending
  refine ⟨comparable, order, ?_, by decide +kernel⟩
  rw [stable]
  decide +kernel

end Grid

end TableView
