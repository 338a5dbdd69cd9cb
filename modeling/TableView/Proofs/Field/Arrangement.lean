import TableView.Proofs.Field.Names

/-!
# Arrangements of fields

A field list arranges another one if it has the same names in any order, and leaves no label empty
that was not. Every edit arranges the list it is made on, and so does a merge with saved fields
(`reconcile_arranges`). A list that arranges the live fields comes back from its saved form, in the
same order and field by field (`reconcile_toSaved`): this is why a merge can be trusted with what an
edited list was saved as.
-/

namespace TableView.FieldList

/-- The same names in any order, and no empty label that was not empty before. -/
structure Arranges (fs origin : FieldList) : Prop where
  names : fs.names.Perm origin.names
  labels : ∀ f ∈ fs.toList, f.label = "" → ∃ g ∈ origin.toList, g.name = f.name ∧ g.label = ""

theorem Arranges.refl (fs : FieldList) : fs.Arranges fs :=
  ⟨.refl _, fun f hf empty ↦ ⟨f, hf, rfl, empty⟩⟩

theorem Arranges.trans {fs others origin : FieldList} (first : fs.Arranges others)
    (second : others.Arranges origin) : fs.Arranges origin := by
  refine ⟨first.names.trans second.names, fun f hf empty ↦ ?_⟩
  obtain ⟨g, hg, same, unlabelled⟩ := first.labels f hf empty
  obtain ⟨h, hh, name, label⟩ := second.labels g hg unlabelled
  exact ⟨h, hh, name.trans same, label⟩

theorem Arranges.of_perm {fs origin : FieldList} (h : fs.toList.Perm origin.toList) :
    fs.Arranges origin :=
  ⟨names_perm h, fun f hf empty ↦ ⟨f, h.mem_iff.mp hf, rfl, empty⟩⟩

/-! ### Edits -/

private theorem labels_editFirst (name : String) (edit : Field → Field)
    (hn : ∀ f, (edit f).name = f.name) (hl : ∀ f, (edit f).label = "" → f.label = "")
    (fs : List Field) (f : Field) (hf : f ∈ editFirst name edit fs) (empty : f.label = "") :
    ∃ g ∈ fs, g.name = f.name ∧ g.label = "" := by
  induction fs with
  | nil => nomatch hf
  | cons g rest ih =>
    rw [editFirst] at hf
    split at hf
    · rcases List.mem_cons.mp hf with rfl | hf
      · exact ⟨g, List.mem_cons_self, (hn g).symm, hl g empty⟩
      · exact ⟨f, List.mem_cons_of_mem _ hf, rfl, empty⟩
    · rcases List.mem_cons.mp hf with rfl | hf
      · exact ⟨f, List.mem_cons_self, rfl, empty⟩
      · obtain ⟨h, hh, same⟩ := ih hf
        exact ⟨h, List.mem_cons_of_mem _ hh, same⟩

variable (fs : FieldList)

theorem setVisible_arranges (name : String) (b : Bool) : (fs.setVisible name b).Arranges fs :=
  ⟨.of_eq (names_setVisible fs name b),
    labels_editFirst name (fun f ↦ { f with visible := b }) (fun _ ↦ rfl) (fun _ h ↦ h) fs.toList⟩

theorem setSortable_arranges (name : String) (b : Bool) : (fs.setSortable name b).Arranges fs :=
  ⟨.of_eq (names_setSortable fs name b),
    labels_editFirst name (fun f ↦ { f with sortable := b }) (fun _ ↦ rfl) (fun _ h ↦ h) fs.toList⟩

/-- A new label must not be empty: an empty one gives way to the live label when it is merged. -/
theorem setLabel_arranges (name : String) {label : String} (h : label ≠ "") :
    (fs.setLabel name label).Arranges fs :=
  ⟨.of_eq (names_setLabel fs name label),
    labels_editFirst name (fun f ↦ { f with label := label }) (fun _ ↦ rfl)
      (fun _ empty ↦ absurd empty h) fs.toList⟩

theorem setAllVisible_arranges (b : Bool) : (fs.setAllVisible b).Arranges fs := by
  refine ⟨.of_eq (names_setAllVisible fs b), fun f hf empty ↦ ?_⟩
  obtain ⟨g, hg, rfl⟩ := List.mem_map.mp hf
  exact ⟨g, hg, rfl, empty⟩

theorem moveUp_arranges (name : String) : (fs.moveUp name).Arranges fs :=
  .of_perm (fs.moveUp_perm name)

theorem moveDown_arranges (name : String) : (fs.moveDown name).Arranges fs :=
  .of_perm (fs.moveDown_perm name)

theorem reorder_arranges (moved target : String) (after : Bool) :
    (fs.reorder moved target after).Arranges fs :=
  .of_perm (fs.reorder_perm moved target after)

/-! ### Saved fields and live ones -/

private theorem labelOr_eq_empty {fallback : String} {label : Option String}
    (h : labelOr fallback label = "") : fallback = "" := by
  cases label with
  | none => exact h
  | some s =>
    rw [labelOr] at h
    split at h
    · exact h
    · next hs => exact absurd h hs

/-- A merge with saved fields arranges the live ones. -/
theorem reconcile_arranges (saved : List SavedField) (live : FieldList) (h : live.names.Nodup) :
    (reconcile saved live).Arranges live := by
  refine ⟨names_reconcile_perm saved live h, fun f hf empty ↦ ?_⟩
  rcases List.mem_append.mp hf with kept | fresh
  · obtain ⟨s, -, hs⟩ := List.mem_filterMap.mp kept
    obtain ⟨g, hg, rfl⟩ := Option.map_eq_some_iff.mp hs
    exact ⟨g, List.mem_of_find?_eq_some hg, rfl, labelOr_eq_empty empty⟩
  · obtain ⟨g, hg, rfl⟩ := List.mem_map.mp fresh
    exact ⟨g, (List.mem_filter.mp hg).1, rfl, empty⟩

theorem firstOfEach_of_nodup {α : Type} (key : α → String) (items : List α)
    (h : (items.map key).Nodup) : firstOfEach key items = items := by
  induction items with
  | nil => rfl
  | cons a rest ih =>
    obtain ⟨fresh, nodup⟩ := List.nodup_cons.mp h
    rw [firstOfEach, ih nodup]
    refine congrArg (a :: ·) (List.filter_eq_self.mpr fun b hb ↦ ?_)
    exact bne_iff_ne.mpr fun same ↦ fresh (same ▸ List.mem_map_of_mem hb)

/-- Of fields with distinct names, each is the one that is found under its name. -/
theorem get?_name {live : FieldList} (h : live.names.Nodup) {f : Field}
    (hf : f ∈ live.toList) : live.get? f.name = some f := by
  rcases live with ⟨fields⟩
  induction fields with
  | nil => nomatch hf
  | cons g rest ih =>
    obtain ⟨fresh, nodup⟩ := List.nodup_cons.mp h
    rcases List.mem_cons.mp hf with rfl | hf
    · exact List.find?_cons_of_pos (beq_self_eq_true _)
    · have other : g.name ≠ f.name := fun same ↦ fresh (same ▸ List.mem_map_of_mem hf)
      rw [get?, List.find?_cons_of_neg (by simpa using other)]
      exact ih nodup hf

/-- A field is restored over the live one of its name as it was saved, if its label is not empty
where that of the live one is not. -/
private theorem restore_toSaved {live f : Field} (name : live.name = f.name)
    (label : f.label = "" → live.label = "") : restore live f.toSaved = f := by
  have same : labelOr live.label (some f.label) = f.label := by
    rw [labelOr]
    split
    · next empty => exact (label empty).trans empty.symm
    · rfl
  rcases f with ⟨n, l, v, s⟩
  rcases live with ⟨n', l', v', s'⟩
  subst name
  exact congrArg (Field.mk n' · v s) same

private theorem restored_toSaved {fs live : FieldList} (nodup : live.names.Nodup)
    (h : fs.Arranges live) {f : Field} (hf : f ∈ fs.toList) :
    (live.get? f.toSaved.name).map (restore · f.toSaved) = some f := by
  obtain ⟨g, hg, name⟩ := List.mem_map.mp (h.names.mem_iff.mp (List.mem_map_of_mem hf))
  have found : live.get? f.toSaved.name = some g := by
    rw [Field.toSaved, ← name]
    exact get?_name nodup hg
  rw [found]
  refine congrArg some (restore_toSaved name fun empty ↦ ?_)
  obtain ⟨k, hk, same, unlabelled⟩ := h.labels f hf empty
  have one : some k = some g := by
    rw [← get?_name nodup hk, ← get?_name nodup hg, same, name]
  exact Option.some.inj one ▸ unlabelled

private theorem filterMap_map_eq_self {α β : Type} (doc : α → β) (read : β → Option α)
    {items : List α} (h : ∀ a ∈ items, read (doc a) = some a) :
    (items.map doc).filterMap read = items := by
  induction items with
  | nil => rfl
  | cons a rest ih =>
    rw [List.map_cons, List.filterMap_cons_some (h a List.mem_cons_self),
      ih fun b hb ↦ h b (List.mem_cons_of_mem _ hb)]

/-- An arrangement of the live fields comes back from its saved form. -/
theorem reconcile_toSaved {fs live : FieldList} (nodup : live.names.Nodup)
    (h : fs.Arranges live) : reconcile (fs.toList.map Field.toSaved) live = fs := by
  have distinct : ((fs.toList.map Field.toSaved).map SavedField.name).Nodup := by
    rw [names_toSaved]
    exact h.names.nodup_iff.mpr nodup
  have kept := filterMap_map_eq_self Field.toSaved
    (fun s ↦ (live.get? s.name).map (restore · s)) fun f hf ↦ restored_toSaved nodup h hf
  have fresh : (live.toList.filter fun f ↦
      !(fs.toList.map Field.toSaved).any (·.name == f.name)) = [] := by
    refine List.filter_eq_nil_iff.mpr fun g hg absent ↦ ?_
    obtain ⟨f, hf, name⟩ := List.mem_map.mp (h.names.mem_iff.mpr (List.mem_map_of_mem hg))
    have present : (fs.toList.map Field.toSaved).any (·.name == g.name) = true :=
      List.any_eq_true.mpr ⟨f.toSaved, List.mem_map_of_mem hf, beq_iff_eq.mpr name⟩
    rw [present] at absent
    cases absent
  rw [reconcile, firstOfEach_of_nodup _ _ distinct, fresh]
  rcases fs with ⟨fields⟩
  exact congrArg FieldList.mk ((List.append_nil _).trans kept)

end TableView.FieldList
