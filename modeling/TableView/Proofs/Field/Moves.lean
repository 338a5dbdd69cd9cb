import TableView.Field.List

/-!
# Moves and edits of field lists

A move permutes the fields of a list, and an edit of a label or of the sortable flag leaves names
and visibility as they are. So neither changes which names are visible (`Restyles.visible_perm`).
-/

namespace TableView.FieldList

private theorem swapBack_perm (name : String) (fs : List Field) : (swapBack name fs).Perm fs := by
  fun_induction swapBack name fs with
  | case1 f g rest => exact .refl _
  | case2 f g rest => exact .swap f g rest
  | case3 f g rest hf hg ih => exact ih.cons f
  | case4 fs => exact .refl _

private theorem swapForth_perm (name : String) (fs : List Field) : (swapForth name fs).Perm fs := by
  fun_induction swapForth name fs with
  | case1 f g rest => exact .swap f g rest
  | case2 f g rest hf ih => exact ih.cons f
  | case3 fs => exact .refl _

private theorem insertBeside_perm (moved : Field) (target : String) (after : Bool)
    (fs : List Field) (h : ∃ f ∈ fs, f.name = target) :
    (insertBeside moved target after fs).Perm (moved :: fs) := by
  induction fs with
  | nil => simp at h
  | cons f rest ih =>
    simp only [insertBeside]
    split
    · cases after
      · exact .refl _
      · exact .swap moved f rest
    · next hf =>
      have hr : ∃ g ∈ rest, g.name = target := by
        obtain ⟨g, hg, hn⟩ := h
        rcases List.mem_cons.mp hg with rfl | hg
        · exact absurd hn hf
        · exact ⟨g, hg, hn⟩
      exact ((ih hr).cons f).trans (.swap moved f rest)

/-- Taking out the first field that passes a test and putting it at the front permutes the list. -/
private theorem cons_eraseP_perm (fs : List Field) (p : Field → Bool) (f : Field)
    (h : fs.find? p = some f) : (f :: fs.eraseP p).Perm fs := by
  induction fs with
  | nil => simp at h
  | cons g rest ih =>
    by_cases hg : p g
    · rw [List.find?_cons_of_pos hg] at h
      cases h
      rw [List.eraseP_cons_of_pos hg]
    · rw [List.find?_cons_of_neg hg] at h
      rw [List.eraseP_cons_of_neg hg]
      exact (List.Perm.swap g f _).trans ((ih h).cons g)

private theorem has_eraseP (fs : List Field) (moved target : String) (hne : moved ≠ target)
    (h : fs.any (·.name == target) = true) :
    ∃ f ∈ fs.eraseP (·.name == moved), f.name = target := by
  obtain ⟨f, hf, hn⟩ := List.any_eq_true.mp h
  have hn : f.name = target := beq_iff_eq.mp hn
  have hm : ¬ (fun g : Field ↦ g.name == moved) f = true := by
    simp only [beq_iff_eq, hn]
    exact hne.symm
  exact ⟨f, (List.mem_eraseP_of_neg (p := fun g ↦ g.name == moved) hm).mpr hf, hn⟩

theorem moveUp_perm (fs : FieldList) (name : String) : (fs.moveUp name).toList.Perm fs.toList :=
  swapBack_perm name fs.toList

theorem moveDown_perm (fs : FieldList) (name : String) :
    (fs.moveDown name).toList.Perm fs.toList :=
  swapForth_perm name fs.toList

theorem reorder_perm (fs : FieldList) (moved target : String) (after : Bool) :
    (fs.reorder moved target after).toList.Perm fs.toList := by
  unfold reorder
  split
  · exact .refl _
  · next hne =>
    split
    · exact .refl _
    · next f hf =>
      split
      · next ht =>
        have hb := insertBeside_perm f target after _ (has_eraseP fs.toList moved target hne ht)
        exact hb.trans (cons_eraseP_perm fs.toList _ f hf)
      · exact .refl _

/-- Of the attributes that an edit leaves alone nothing is changed in a list. -/
theorem map_editFirst {α : Type} (view : Field → α) (name : String) (edit : Field → Field)
    (same : ∀ f, view (edit f) = view f) (fs : List Field) :
    (editFirst name edit fs).map view = fs.map view := by
  induction fs with
  | nil => rfl
  | cons f rest ih =>
    simp only [editFirst]
    split
    · simp only [List.map_cons, same]
    · simp only [List.map_cons, ih]

/-- The names with whether they are visible, in order. -/
def outline (fs : FieldList) : List (String × Bool) := fs.toList.map fun f ↦ (f.name, f.visible)

/-- One list restyles another one if it has the same fields, as visible as they are there. Their
order, their labels and whether they are sortable may differ. -/
def Restyles (fs others : FieldList) : Prop := fs.outline.Perm others.outline

theorem setLabel_restyles (fs : FieldList) (name label : String) :
    (fs.setLabel name label).Restyles fs :=
  .of_eq (map_editFirst _ name (fun f ↦ { f with label := label }) (fun _ ↦ rfl) fs.toList)

theorem setSortable_restyles (fs : FieldList) (name : String) (b : Bool) :
    (fs.setSortable name b).Restyles fs :=
  .of_eq (map_editFirst _ name (fun f ↦ { f with sortable := b }) (fun _ ↦ rfl) fs.toList)

variable {fs others : FieldList}

theorem restyles_of_perm (h : fs.toList.Perm others.toList) : fs.Restyles others := h.map _

theorem Restyles.visible_perm (h : fs.Restyles others) :
    (fs.visible.map Field.name).Perm (others.visible.map Field.name) := by
  have read (fields : FieldList) :
      fields.visible.map Field.name = (fields.outline.filter Prod.snd).map Prod.fst := by
    rw [outline, List.filter_map, List.map_map]
    rfl
  rw [read, read]
  exact (h.filter Prod.snd).map Prod.fst

end TableView.FieldList
