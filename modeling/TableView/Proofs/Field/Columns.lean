import TableView.Labels
import TableView.Proofs.Field.Names
import TableView.Query

/-!
# Columns with and without a schema

A saved field list is shown in two ways: merged with the live fields of its object when it is
edited, and as it is when its table is rendered. An entry becomes a column if it is visible and the
first of its name. As long as every column is still live, the two ways have the same columns in the
same order, and so the same query (`columns_reconcile`). A saved label that is empty gives way to
the live one in the first way and to the name in the second; all other labels are the same.
-/

namespace TableView

/-- An entry of a saved field list that becomes a column: it is visible and the first of its
name. -/
def SavedField.IsColumnOf (s : SavedField) (saved : List SavedField) : Prop :=
  s.visible = true ∧ ∃ before after, saved = before ++ s :: after ∧ ∀ g ∈ before, g.name ≠ s.name

theorem SavedField.isColumnOf_iff (s : SavedField) (saved : List SavedField) :
    s.IsColumnOf saved ↔ s.visible = true ∧ s ∈ firstOfEach SavedField.name saved := by
  rw [IsColumnOf, mem_firstOfEach_iff]

namespace FieldList

theorem get?_of_mem_names {fs : FieldList} {name : String} (h : name ∈ fs.names) :
    ∃ f, fs.get? name = some f ∧ f.name = name := by
  cases found : fs.get? name with
  | none =>
    obtain ⟨f, mem, same⟩ := List.mem_map.mp h
    exact absurd (beq_iff_eq.mpr same) (List.find?_eq_none.mp found f mem)
  | some f =>
    exact ⟨f, rfl, beq_iff_eq.mp (List.find?_some (p := fun g : Field ↦ g.name == name) found)⟩

/-! ### Visible fields -/

variable {α : Type} (view : Field → α) {live : FieldList}

/-- What is seen of the visible entries is the same whether they are restored over live fields or
taken as they are, if it is the same for each of them. -/
private theorem map_visible_restored (items : List SavedField)
    (same : ∀ s ∈ items, s.visible = true →
      ∃ f, live.get? s.name = some f ∧ view (restore f s) = view s.toField) :
    ((items.filterMap fun s ↦ (live.get? s.name).map (restore · s)).filter Field.visible).map view =
      ((items.map SavedField.toField).filter Field.visible).map view := by
  induction items with
  | nil => rfl
  | cons s rest ih =>
    have later := ih fun t ht ↦ same t (List.mem_cons_of_mem _ ht)
    have first := same s List.mem_cons_self
    cases shown : s.visible with
    | false =>
      have hidden : s.toField.visible = false := shown
      rw [List.map_cons, List.filter_cons_of_neg (by simp [hidden]), ← later]
      cases found : live.get? s.name with
      | none => rw [List.filterMap_cons_none (by rw [found]; rfl)]
      | some f =>
        have hidden' : (restore f s).visible = false := shown
        rw [List.filterMap_cons_some (by rw [found]; rfl),
          List.filter_cons_of_neg (by simp [hidden'])]
    | true =>
      obtain ⟨f, found, seen⟩ := first shown
      have visible : s.toField.visible = true := shown
      have visible' : (restore f s).visible = true := shown
      rw [List.filterMap_cons_some (by rw [found]; rfl), List.map_cons,
        List.filter_cons_of_pos visible', List.filter_cons_of_pos visible, List.map_cons,
        List.map_cons, seen, later]

/-- Live fields that were not saved stay hidden. -/
private theorem visible_fresh (fields : List Field) :
    (fields.map fun f ↦ { f with visible := false, sortable := true }).filter Field.visible =
      [] := by
  refine List.filter_eq_nil_iff.mpr fun g mem shown ↦ ?_
  obtain ⟨f, -, rfl⟩ := List.mem_map.mp mem
  cases shown

theorem map_visible_reconcile (saved : List SavedField)
    (same : ∀ s : SavedField, s.IsColumnOf saved →
      ∃ f, live.get? s.name = some f ∧ view (restore f s) = view s.toField) :
    (reconcile saved live).visible.map view = (ofSaved saved).visible.map view := by
  rw [visible, reconcile, List.filter_append, visible_fresh, List.append_nil]
  refine map_visible_restored view _ fun s mem shown ↦ same s ?_
  exact (s.isColumnOf_iff saved).mpr ⟨shown, mem⟩

theorem anyVisible_eq (fs : FieldList) : fs.anyVisible = !(fs.visible.map Field.name).isEmpty := by
  rw [anyVisible, visible, List.isEmpty_map]
  induction fs.toList with
  | nil => rfl
  | cons f rest ih =>
    rw [List.any_cons, ih, List.filter_cons]
    cases f.visible <;> rfl

end FieldList

namespace Query

variable {fs others : FieldList}

private theorem isPossible_congr (same : fs.visible.map Field.name = others.visible.map Field.name)
    (object : String) : isPossible object fs = isPossible object others := by
  rw [isPossible, isPossible, FieldList.anyVisible_eq, FieldList.anyVisible_eq, same]

private theorem text_congr (same : fs.visible.map Field.name = others.visible.map Field.name)
    (object filter : String) (limit : Nat) :
    text object fs filter limit = text object others filter limit := by
  rw [text, text, same]

/-- Of the fields, a query depends on the names of the visible ones alone. -/
theorem compile_congr (same : fs.visible.map Field.name = others.visible.map Field.name)
    (object filter : String) (limit : Nat) :
    compile object fs filter limit = compile object others filter limit := by
  rw [compile, compile, isPossible_congr same, text_congr same]

theorem compileWith_congr (same : fs.visible.map Field.name = others.visible.map Field.name)
    (object filter : String) (limit : Value) :
    compileWith object fs filter limit = compileWith object others filter limit := by
  simp only [compileWith, isPossible_congr same, text_congr same]

end Query

namespace FieldList

variable {saved : List SavedField} {live : FieldList}

private theorem names_reconcile_visible (present : ∀ s : SavedField, s.IsColumnOf saved →
    s.name ∈ live.names) :
    (reconcile saved live).visible.map Field.name = (ofSaved saved).visible.map Field.name := by
  refine map_visible_reconcile Field.name saved fun s column ↦ ?_
  obtain ⟨f, found, name⟩ := get?_of_mem_names (present s column)
  exact ⟨f, found, name⟩

private theorem labelOr_of_ne_empty {label : Option String} (given : label.getD "" ≠ "")
    (fallback : String) : labelOr fallback label = label.getD "" := by
  cases label with
  | none => exact absurd rfl given
  | some text => exact if_neg given

private theorem labels_reconcile_visible
    (present : ∀ s : SavedField, s.IsColumnOf saved → s.name ∈ live.names)
    (labelled : ∀ s : SavedField, s.IsColumnOf saved → s.label.getD "" ≠ "") :
    Labels.ofFields (reconcile saved live) = Labels.ofFields (ofSaved saved) := by
  refine congrArg Entries.ofList (map_visible_reconcile _ saved fun s column ↦ ?_)
  obtain ⟨f, found, name⟩ := get?_of_mem_names (present s column)
  have kept := labelOr_of_ne_empty (labelled s column)
  exact ⟨f, found, Prod.ext name ((kept f.label).trans (kept s.name).symm)⟩

/-- If every column of a saved field list is live, the query that is compiled after a merge with the
live fields is the one that is compiled without a schema; and so are the labels of the columns, in
the same order, if none of the saved ones is empty. -/
theorem columns_reconcile (saved : List SavedField) (live : FieldList)
    (present : ∀ s : SavedField, s.IsColumnOf saved → s.name ∈ live.names) :
    (∀ (object filter : String) (limit : Nat),
      Query.compile object (reconcile saved live) filter limit =
        Query.compile object (ofSaved saved) filter limit) ∧
    (∀ (object filter : String) (limit : Value),
      Query.compileWith object (reconcile saved live) filter limit =
        Query.compileWith object (ofSaved saved) filter limit) ∧
    ((∀ s : SavedField, s.IsColumnOf saved → s.label.getD "" ≠ "") →
      Labels.ofFields (reconcile saved live) = Labels.ofFields (ofSaved saved)) := by
  have names := names_reconcile_visible present
  exact ⟨fun object filter ↦ Query.compile_congr names object filter,
    fun object filter ↦ Query.compileWith_congr names object filter,
    labels_reconcile_visible present⟩

/-- Known and unknown, hidden and repeated entries, and live fields that were not saved. -/
def mixedSaved : List SavedField :=
  [⟨"Id", none, false, none⟩, ⟨"Name", some "Account name", true, some false⟩,
    ⟨"Fax", some "", false, none⟩, ⟨"Id", some "Key", true, none⟩,
    ⟨"Site", some "Place", true, none⟩, ⟨"Name", some "Name", false, none⟩]

/-- The fields that the object has now, in another order. -/
def mixedLive : FieldList :=
  ⟨[⟨"Site", "Site", true, true⟩, ⟨"Id", "Id", true, true⟩, ⟨"Phone", "Phone", true, true⟩,
    ⟨"Name", "Name", true, true⟩]⟩

theorem columns_reconcile_mixed :
    (∀ s : SavedField, s.IsColumnOf mixedSaved → s.name ∈ mixedLive.names) ∧
    Query.compile "Account" (reconcile mixedSaved mixedLive) "" 50 =
      "SELECT Name, Site FROM Account  LIMIT 50" ∧
    Labels.ofFields (reconcile mixedSaved mixedLive) =
      [("Name", "Account name"), ("Site", "Place")] := by
  have all : ∀ s ∈ firstOfEach SavedField.name mixedSaved, s.visible = true →
      s.name ∈ mixedLive.names ∧ s.label.getD "" ≠ "" := by decide +kernel
  have column (s : SavedField) (h : s.IsColumnOf mixedSaved) :=
    all s ((s.isColumnOf_iff mixedSaved).mp h).2 h.1
  obtain ⟨query, -, labels⟩ := columns_reconcile mixedSaved mixedLive fun s h ↦ (column s h).1
  exact ⟨fun s h ↦ (column s h).1, (query "Account" "" 50).trans (by decide +kernel),
    (labels fun s h ↦ (column s h).2).trans (by decide +kernel)⟩

end FieldList

end TableView
