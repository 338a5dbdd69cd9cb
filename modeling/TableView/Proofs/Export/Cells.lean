import Mathlib.Data.List.Forall2
import TableView.Proofs.Export.Reading
import TableView.Proofs.Number.Fraction

/-!
# What an export shows of a grid

What is read of an export has the labels of the columns first and then one line for each row, in the
order of the rows, with one field for each column (`read_ofGrid`). A field depends on more than its
cell. A column of the name that made-up keys have is empty, and a column of numbers that are not all
integers is written in floating point, where no integer keeps its text. In all other columns the
integers and texts are what is read (`shownBy_iff`).
-/

namespace TableView

open Number Separated ExportTable

/-- The text that an integer or a text is to have in an export. -/
def Value.plainText? : Value → Option String
  | .int n => some (toString n)
  | .text s => some s
  | _ => none

namespace ExportTable

/-- Cells of a column that is written in floating point if it has an integer: there are only numbers
and empty cells, not all of them integers, and the integers before the first empty cell fit a type
of 64 bits. -/
structure Mixed (cells : List Value) : Prop where
  numeric : ∀ v ∈ cells, isNumeric v = true
  fits : fitWord (integers (cells.takeWhile (!isNull ·))) = true
  other : ∃ v ∈ cells, isInteger v = false

instance (cells : List Value) : Decidable (Mixed cells) :=
  decidable_of_iff ((∀ v ∈ cells, isNumeric v = true) ∧
      fitWord (integers (cells.takeWhile (!isNull ·))) = true ∧ ∃ v ∈ cells, isInteger v = false)
    ⟨fun ⟨numeric, fits, other⟩ ↦ ⟨numeric, fits, other⟩,
      fun h ↦ ⟨h.numeric, h.fits, h.other⟩⟩

theorem isFloating_iff {cells : List Value} {n : Int} (mem : .int n ∈ cells) :
    isFloating cells = true ↔ Mixed cells := by
  have integer : cells.any isInteger = true := List.any_eq_true.mpr ⟨.int n, mem, rfl⟩
  rw [isFloating, integer, Bool.true_and, Bool.and_eq_true, Bool.and_eq_true, List.all_eq_true,
    Bool.or_eq_true, List.any_eq_true, List.any_eq_true]
  constructor
  · rintro ⟨⟨numeric, fits⟩, ⟨v, inside, float⟩ | ⟨v, inside, null⟩⟩
    · refine ⟨numeric, fits, v, inside, ?_⟩
      cases v with
      | float => rfl
      | _ => cases float
    · refine ⟨numeric, fits, v, inside, ?_⟩
      cases v with
      | null => rfl
      | _ => cases null
  · rintro ⟨numeric, fits, v, inside, other⟩
    refine ⟨⟨numeric, fits⟩, ?_⟩
    have number := numeric v inside
    cases v with
    | null => exact .inr ⟨.null, inside, rfl⟩
    | float x => exact .inl ⟨.float x, inside, rfl⟩
    | int m => cases other
    | _ => cases number

end ExportTable

namespace Grid

/-- The cells of a column as an export takes them from the rows. -/
def exportedCells (g : Grid) (c : Column) : List Value := g.rows.map (cell · c.name)

/-- The text of an exported cell. -/
def exportedText (g : Grid) (c : Column) (row : Row) : String :=
  cellText (settle (isFloating (g.exportedCells c)) (cell row c.name))

/-- The lines show the grid: first the labels of the columns, then one line for each row, in order,
with one field for each column, and every cell that is an integer or a text has this text. -/
structure ShownBy (g : Grid) (lines : List (List String)) : Prop where
  header : lines.head? = some (g.columns.map Column.label)
  rows : List.Forall₂ (fun row line ↦ List.Forall₂ (fun c field ↦
    ∀ v text, Entries.get? row c.name = some v → v.plainText? = some text → field = text)
      g.columns line) g.rows lines.tail

/-- No cell loses its text: a column of the name of made-up keys has no integers and no texts but
empty ones, and a column of numbers with an integer has nothing else. -/
structure KeepsTexts (g : Grid) : Prop where
  keys : ∀ c ∈ g.columns, c.name = synthesizedColumn → ∀ row ∈ g.rows,
    ∀ v text, Entries.get? row c.name = some v → v.plainText? = some text → text = ""
  integers : ∀ c ∈ g.columns, c.name ≠ synthesizedColumn → ∀ row ∈ g.rows,
    ∀ n, Entries.get? row c.name = some (.int n) → ¬ Mixed (g.exportedCells c)

variable {g : Grid} {c : Column} {row : Row} {v : Value} {text : String}

theorem read_ofGrid (g : Grid) : read (ofGrid g).separated =
    g.columns.map Column.label ::
      g.rows.map fun row ↦ g.columns.map fun c ↦ g.exportedText c row := by
  rw [read_separated, ofGrid]
  dsimp only
  rw [List.map_map]
  refine congrArg (_ :: ·) (List.map_congr_left fun row _ ↦ ?_)
  rw [Function.comp_apply, List.map_map, List.map_map]
  rfl

/-! ### Cells -/

private theorem exportedText_of_key (key : c.name = synthesizedColumn) :
    g.exportedText c row = "" := by
  rw [exportedText, cell, if_pos key]
  rfl

private theorem exportedText_of_text {s : String} (other : c.name ≠ synthesizedColumn)
    (has : Entries.get? row c.name = some (.text s)) : g.exportedText c row = s := by
  rw [exportedText, cell, if_neg other, has]
  rfl

private theorem exportedText_of_int {n : Int} (other : c.name ≠ synthesizedColumn)
    (mem : row ∈ g.rows) (has : Entries.get? row c.name = some (.int n)) :
    g.exportedText c row = toString n ↔ ¬ Mixed (g.exportedCells c) := by
  have integer : cell row c.name = .int n := by
    rw [cell, if_neg other, has]
    rfl
  have inside : .int n ∈ g.exportedCells c := List.mem_map.mpr ⟨row, mem, integer⟩
  rw [← isFloating_iff inside, exportedText, integer]
  cases isFloating (g.exportedCells c) with
  | true => exact iff_of_false (Binary64.text_ne_int (.ofInt n) n) (not_not_intro rfl)
  | false => exact iff_of_true rfl Bool.false_ne_true

/-! ### Grids -/

/-- An export shows the grid exactly if no cell loses its text. -/
theorem shownBy_iff (g : Grid) : g.ShownBy (read (ofGrid g).separated) ↔ g.KeepsTexts := by
  have each : g.ShownBy (read (ofGrid g).separated) ↔ ∀ row ∈ g.rows, ∀ c ∈ g.columns, ∀ v text,
      Entries.get? row c.name = some v → v.plainText? = some text →
        g.exportedText c row = text := by
    rw [read_ofGrid]
    constructor
    · rintro ⟨-, rows⟩ row mem
      have line := List.forall₂_same.mp (List.forall₂_map_right_iff.mp rows) row mem
      exact List.forall₂_same.mp (List.forall₂_map_right_iff.mp line)
    · intro all
      refine ⟨rfl, List.forall₂_map_right_iff.mpr (List.forall₂_same.mpr fun row mem ↦ ?_)⟩
      exact List.forall₂_map_right_iff.mpr (List.forall₂_same.mpr (all row mem))
  rw [each]
  constructor
  · intro all
    refine ⟨fun c column key row mem v text has plain ↦ ?_, fun c column other row mem n has ↦ ?_⟩
    · exact (all row mem c column v text has plain).symm.trans (exportedText_of_key key)
    · exact (exportedText_of_int other mem has).mp (all row mem c column _ _ has rfl)
  · intro keeps row mem c column v text has plain
    by_cases key : c.name = synthesizedColumn
    · rw [exportedText_of_key key, keeps.keys c column key row mem v text has plain]
    · cases v with
      | int n =>
        cases plain
        exact (exportedText_of_int key mem has).mpr (keeps.integers c column key row mem n has)
      | text s =>
        cases plain
        exact exportedText_of_text key has
      | _ => cases plain

end Grid

end TableView
