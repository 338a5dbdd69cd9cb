import Mathlib.Data.List.Dedup
import TableView.Field.Reconcile
import TableView.Proofs.Field.Moves

/-!
# Names of fields

Where the names of a field list come from. An edit leaves them as they are. Discovered fields have
the discovered names, each once. Saved fields merged with live ones have the names of the live
ones: first the saved names that are live, in saved order, then the live names that were not saved
(`names_reconcile`).
-/

namespace TableView

section FirstOfEach

variable {α : Type} (key : α → String)

theorem map_firstOfEach_cons (a : α) (rest : List α) :
    (firstOfEach key (a :: rest)).map key =
      key a :: ((firstOfEach key rest).map key).filter (· != key a) := by
  rw [List.filter_map]
  rfl

theorem mem_map_firstOfEach (items : List α) (name : String) :
    name ∈ (firstOfEach key items).map key ↔ name ∈ items.map key := by
  induction items with
  | nil => exact Iff.rfl
  | cons a rest ih =>
    rw [map_firstOfEach_cons, List.map_cons, List.mem_cons, List.mem_cons, List.mem_filter, ih]
    by_cases hn : name = key a
    · simp only [hn, true_or]
    · simp [hn]

theorem nodup_map_firstOfEach (items : List α) : ((firstOfEach key items).map key).Nodup := by
  induction items with
  | nil => exact List.nodup_nil
  | cons a rest ih =>
    rw [map_firstOfEach_cons]
    refine List.nodup_cons.mpr ⟨fun h ↦ ?_, ih.filter _⟩
    have hne := (List.mem_filter.mp h).2
    simp at hne

/-- An item is kept exactly if no item before it has its key. -/
theorem mem_firstOfEach_iff (items : List α) (a : α) : a ∈ firstOfEach key items ↔
    ∃ before after, items = before ++ a :: after ∧ ∀ b ∈ before, key b ≠ key a := by
  induction items with
  | nil => exact iff_of_false List.not_mem_nil fun ⟨before, after, same, _⟩ ↦ by simp at same
  | cons first rest ih =>
    rw [firstOfEach, List.mem_cons, List.mem_filter, ih]
    constructor
    · rintro (rfl | ⟨⟨before, after, rfl, apart⟩, other⟩)
      · exact ⟨[], rest, rfl, fun b hb ↦ absurd hb List.not_mem_nil⟩
      · have first' : key first ≠ key a := fun same ↦ by simp [same] at other
        exact ⟨first :: before, after, rfl, List.forall_mem_cons.mpr ⟨first', apart⟩⟩
    · rintro ⟨before, after, same, apart⟩
      cases before with
      | nil =>
        cases same
        exact .inl rfl
      | cons b before =>
        cases same
        obtain ⟨other, apart⟩ := List.forall_mem_cons.mp apart
        exact .inr ⟨⟨before, after, rfl, apart⟩, by simpa using other.symm⟩

end FirstOfEach

namespace FieldList

theorem has_iff (fs : FieldList) (name : String) : fs.has name = true ↔ name ∈ fs.names := by
  simp [has, names]

theorem eq_empty_of_names_perm {fs : FieldList} (h : fs.names.Perm empty.names) : fs = empty := by
  have hn : fs.toList = [] := List.map_eq_nil_iff.mp h.eq_nil
  rcases fs with ⟨fields⟩
  subst hn
  rfl

theorem ne_empty_of_anyVisible {fs : FieldList} (h : fs.anyVisible = true) : fs ≠ empty := by
  rintro rfl
  cases h

/-! ### Edits -/

theorem names_setVisible (fs : FieldList) (name : String) (b : Bool) :
    (fs.setVisible name b).names = fs.names :=
  map_editFirst Field.name name (fun f ↦ { f with visible := b }) (fun _ ↦ rfl) fs.toList

theorem names_setLabel (fs : FieldList) (name label : String) :
    (fs.setLabel name label).names = fs.names :=
  map_editFirst Field.name name (fun f ↦ { f with label := label }) (fun _ ↦ rfl) fs.toList

theorem names_setSortable (fs : FieldList) (name : String) (b : Bool) :
    (fs.setSortable name b).names = fs.names :=
  map_editFirst Field.name name (fun f ↦ { f with sortable := b }) (fun _ ↦ rfl) fs.toList

theorem names_setAllVisible (fs : FieldList) (b : Bool) :
    (fs.setAllVisible b).names = fs.names := by
  unfold names setAllVisible
  rw [List.map_map]
  rfl

theorem names_perm {fs others : FieldList} (h : others.toList.Perm fs.toList) :
    others.names.Perm fs.names :=
  h.map Field.name

theorem names_toSaved (fs : FieldList) :
    (fs.toList.map Field.toSaved).map SavedField.name = fs.names := by
  rw [List.map_map]
  rfl

/-! ### Discovered fields -/

theorem names_ofDiscovered {found : List DiscoveredField} {fields : FieldList}
    (h : ofDiscovered found = .ok fields) :
    fields.names = (firstOfEach DiscoveredField.name found).map DiscoveredField.name := by
  unfold ofDiscovered at h
  split at h
  · cases h
  · next first rest hf =>
    cases h
    rw [hf]
    unfold names
    rw [List.map_map]
    rfl

theorem nodup_names_ofDiscovered {found : List DiscoveredField} {fields : FieldList}
    (h : ofDiscovered found = .ok fields) : fields.names.Nodup := by
  rw [names_ofDiscovered h]
  exact nodup_map_firstOfEach DiscoveredField.name found

/-- Discovered fields have the discovered names, each once. -/
theorem names_ofDiscovered_perm {found : List DiscoveredField} {fields : FieldList}
    (h : ofDiscovered found = .ok fields) :
    fields.names.Perm (found.map DiscoveredField.name).dedup := by
  refine (List.perm_ext_iff_of_nodup (nodup_names_ofDiscovered h) (List.nodup_dedup _)).mpr ?_
  intro name
  rw [names_ofDiscovered h, mem_map_firstOfEach, List.mem_dedup]

/-! ### Saved fields and live ones -/

theorem names_restored (live : FieldList) (saved : List SavedField) :
    (saved.filterMap fun s ↦ (live.get? s.name).map (restore · s)).map Field.name =
      (saved.map SavedField.name).filter live.has := by
  induction saved with
  | nil => rfl
  | cons s rest ih =>
    rw [List.map_cons, List.filter_cons]
    cases hg : live.get? s.name with
    | none =>
      have hs : live.has s.name = false := by
        rw [Bool.eq_false_iff]
        intro hh
        obtain ⟨f, hf, hn⟩ := List.any_eq_true.mp hh
        exact List.find?_eq_none.mp hg f hf hn
      rw [List.filterMap_cons_none (by rw [hg]; rfl), hs]
      exact ih
    | some f =>
      have hb : (f.name == s.name) = true :=
        List.find?_some (p := fun g : Field ↦ g.name == s.name) hg
      have hs : live.has s.name = true :=
        List.any_eq_true.mpr ⟨f, List.mem_of_find?_eq_some hg, hb⟩
      rw [List.filterMap_cons_some (by rw [hg]; rfl), hs, List.map_cons, ih]
      exact congrArg (· :: _) (beq_iff_eq.mp hb)

/-- The saved names that are live come first, then the live names that were not saved. -/
theorem names_reconcile (saved : List SavedField) (live : FieldList) :
    (reconcile saved live).names =
      ((firstOfEach SavedField.name saved).map SavedField.name).filter live.has ++
        live.names.filter fun name ↦ !saved.any (·.name == name) := by
  have fresh : (live.toList.filter fun f ↦ !saved.any (·.name == f.name)).map Field.name =
      live.names.filter fun name ↦ !saved.any (·.name == name) := by
    unfold names
    rw [List.filter_map]
    rfl
  unfold reconcile
  rw [← fresh, ← names_restored, names, List.map_append, List.map_map]
  rfl

private theorem any_name_iff (saved : List SavedField) (name : String) :
    saved.any (·.name == name) = true ↔ name ∈ saved.map SavedField.name := by
  simp

theorem mem_names_reconcile (saved : List SavedField) (live : FieldList) (name : String) :
    name ∈ (reconcile saved live).names ↔ name ∈ live.names := by
  rw [names_reconcile, List.mem_append, List.mem_filter, List.mem_filter, mem_map_firstOfEach,
    has_iff, ← any_name_iff]
  cases saved.any (·.name == name) with
  | true => simp
  | false => simp

theorem nodup_names_reconcile (saved : List SavedField) (live : FieldList)
    (h : live.names.Nodup) : (reconcile saved live).names.Nodup := by
  rw [names_reconcile]
  refine List.nodup_append.mpr ⟨(nodup_map_firstOfEach _ saved).filter _, h.filter _, ?_⟩
  intro name hs other hl he
  subst he
  have hm := (mem_map_firstOfEach SavedField.name saved name).mp (List.mem_filter.mp hs).1
  have hn := (List.mem_filter.mp hl).2
  rw [(any_name_iff saved name).mpr hm] at hn
  cases hn

/-- No live field is lost, and none is added. -/
theorem names_reconcile_perm (saved : List SavedField) (live : FieldList)
    (h : live.names.Nodup) : (reconcile saved live).names.Perm live.names :=
  (List.perm_ext_iff_of_nodup (nodup_names_reconcile saved live h) h).mpr
    (mem_names_reconcile saved live)

end FieldList

end TableView
