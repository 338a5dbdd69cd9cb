import TableView.Proofs.Config.Stored
import TableView.Proofs.Field.Arrangement
import TableView.Proofs.Field.Columns

/-!
# What a merge of saved and live fields holds

A merge is described without following how it is made: which fields it holds, what each is like, and
by which places they are ordered (`Merged`). The saved fields that are live are ordered by the first
saved entry of each name, the other live ones by discovery. Since a merge arranges the live fields,
its document can be read again as a saved list, and merging that changes nothing
(`reconcile_merged`).
-/

namespace TableView

/-- The entry is the first one of its name. -/
def SavedField.IsFirstIn (s : SavedField) (saved : List SavedField) : Prop :=
  ∃ before after, saved = before ++ s :: after ∧ ∀ g ∈ before, g.name ≠ s.name

namespace FieldList

/-- The fields of a merge. The kept ones stand for the first entries of the saved names that are
live: with the label of the entry or else the live one, visible as saved, and sortable unless saved
otherwise. The fresh ones stand for the live fields that were not saved: hidden and sortable. -/
structure Merged (saved : List SavedField) (live : FieldList) (kept fresh : List Field) :
    Prop where
  mem_kept : ∀ f, f ∈ kept ↔ ∃ s : SavedField, ∃ g ∈ live.toList, s.IsFirstIn saved ∧
    g.name = s.name ∧ f = ⟨s.name, labelOr g.label s.label, s.visible, s.sortable.getD true⟩
  mem_fresh : ∀ f, f ∈ fresh ↔ ∃ g ∈ live.toList, (∀ s ∈ saved, s.name ≠ g.name) ∧
    f = ⟨g.name, g.label, false, true⟩
  kept_order : (kept.map Field.name).Pairwise fun one other ↦
    (saved.map SavedField.name).idxOf one < (saved.map SavedField.name).idxOf other
  fresh_order : (fresh.map Field.name).Pairwise fun one other ↦
    live.names.idxOf one < live.names.idxOf other

/-! ### Order -/

private theorem idxOf_cons_lt {first one other : String} {names : List String}
    (h : names.idxOf one < names.idxOf other) (differs : one ≠ first) (differs' : other ≠ first) :
    (first :: names).idxOf one < (first :: names).idxOf other := by
  rw [List.idxOf_cons_ne _ differs.symm, List.idxOf_cons_ne _ differs'.symm]
  exact Nat.succ_lt_succ h

/-- The first items of each key are kept in the order of their places. -/
theorem pairwise_idxOf_firstOfEach {α : Type} (key : α → String) (items : List α) :
    ((firstOfEach key items).map key).Pairwise fun one other ↦
      (items.map key).idxOf one < (items.map key).idxOf other := by
  induction items with
  | nil => exact .nil
  | cons a rest ih =>
    rw [map_firstOfEach_cons, List.map_cons]
    have differs : ∀ name ∈ ((firstOfEach key rest).map key).filter (· != key a), name ≠ key a :=
      fun name mem ↦ bne_iff_ne.mp (List.mem_filter.mp mem).2
    refine List.pairwise_cons.mpr ⟨fun name mem ↦ ?_, ?_⟩
    · rw [List.idxOf_cons_self, List.idxOf_cons_ne _ (differs name mem).symm]
      exact Nat.succ_pos _
    · refine (ih.filter _).imp_of_mem fun mem mem' earlier ↦ ?_
      exact idxOf_cons_lt earlier (differs _ mem) (differs _ mem')

theorem pairwise_idxOf_of_nodup {names : List String} (distinct : names.Nodup) :
    names.Pairwise fun one other ↦ names.idxOf one < names.idxOf other := by
  have order := pairwise_idxOf_firstOfEach id names
  rwa [firstOfEach_of_nodup id names (by rwa [List.map_id]), List.map_id] at order

/-! ### The two parts -/

variable (saved : List SavedField) {live : FieldList}

/-- The saved fields that are live, as they are merged. -/
def keptOf (live : FieldList) : List Field :=
  (firstOfEach SavedField.name saved).filterMap fun s ↦ (live.get? s.name).map (restore · s)

/-- The live fields that were not saved, as they are merged. -/
def freshOf (live : FieldList) : List Field :=
  (live.toList.filter fun f ↦ !saved.any (·.name == f.name)).map fun f ↦
    { f with visible := false, sortable := true }

theorem toList_reconcile (live : FieldList) :
    (reconcile saved live).toList = keptOf saved live ++ freshOf saved live := rfl

theorem get?_eq_some_iff (distinct : live.names.Nodup) (name : String) (f : Field) :
    live.get? name = some f ↔ f ∈ live.toList ∧ f.name = name := by
  constructor
  · intro found
    exact ⟨List.mem_of_find?_eq_some found,
      beq_iff_eq.mp (List.find?_some (p := fun g : Field ↦ g.name == name) found)⟩
  · rintro ⟨mem, rfl⟩
    exact get?_name distinct mem

private theorem mem_keptOf_iff (distinct : live.names.Nodup) (f : Field) :
    f ∈ keptOf saved live ↔ ∃ s : SavedField, ∃ g ∈ live.toList, s.IsFirstIn saved ∧
      g.name = s.name ∧ f = ⟨s.name, labelOr g.label s.label, s.visible, s.sortable.getD true⟩ := by
  have restored {g : Field} {s : SavedField} (same : g.name = s.name) :
      restore g s = ⟨s.name, labelOr g.label s.label, s.visible, s.sortable.getD true⟩ := by
    rw [restore, same]
  rw [keptOf, List.mem_filterMap]
  constructor
  · rintro ⟨s, mem, hs⟩
    obtain ⟨g, found, rfl⟩ := Option.map_eq_some_iff.mp hs
    obtain ⟨here, same⟩ := (get?_eq_some_iff distinct _ _).mp found
    exact ⟨s, g, here, (mem_firstOfEach_iff _ _ _).mp mem, same, restored same⟩
  · rintro ⟨s, g, here, first, same, rfl⟩
    refine ⟨s, (mem_firstOfEach_iff _ _ _).mpr first, ?_⟩
    rw [(get?_eq_some_iff distinct _ _).mpr ⟨here, same⟩, Option.map_some, restored same]

private theorem mem_freshOf_iff (f : Field) :
    f ∈ freshOf saved live ↔ ∃ g ∈ live.toList, (∀ s ∈ saved, s.name ≠ g.name) ∧
      f = ⟨g.name, g.label, false, true⟩ := by
  have absent (g : Field) :
      (!saved.any (·.name == g.name)) = true ↔ ∀ s ∈ saved, s.name ≠ g.name := by
    rw [Bool.not_eq_true', List.any_eq_false]
    simp only [beq_iff_eq]
  rw [freshOf, List.mem_map]
  constructor
  · rintro ⟨g, mem, rfl⟩
    obtain ⟨here, unsaved⟩ := List.mem_filter.mp mem
    exact ⟨g, here, (absent g).mp unsaved, rfl⟩
  · rintro ⟨g, here, unsaved, rfl⟩
    exact ⟨g, List.mem_filter.mpr ⟨here, (absent g).mpr unsaved⟩, rfl⟩

private theorem names_keptOf :
    ((keptOf saved live).map Field.name).Sublist
      ((firstOfEach SavedField.name saved).map SavedField.name) := by
  rw [keptOf, names_restored]
  exact List.filter_sublist

private theorem names_freshOf : ((freshOf saved live).map Field.name).Sublist live.names := by
  rw [freshOf, List.map_map]
  exact List.filter_sublist.map Field.name

theorem merged_parts (distinct : live.names.Nodup) :
    Merged saved live (keptOf saved live) (freshOf saved live) where
  mem_kept := mem_keptOf_iff saved distinct
  mem_fresh := mem_freshOf_iff saved
  kept_order := (pairwise_idxOf_firstOfEach SavedField.name saved).sublist (names_keptOf saved)
  fresh_order := (pairwise_idxOf_of_nodup distinct).sublist (names_freshOf saved)

/-! ### The document of a merge -/

/-- The document of fields is read as a saved list of the same fields. -/
theorem saved_toValue (kind : Schema.FaultKind) (fs : FieldList) :
    Schema.list (SavedField.ofValue kind) fs.toValue = .ok (fs.toList.map Field.toSaved) := by
  have document : fs.toValue = .list ((fs.toList.map Field.toSaved).map SavedField.toValue) := by
    rw [List.map_map]
    rfl
  rw [document]
  exact Schema.list_map (SavedField.ofValue_toValue kind) _

/-- Whatever was saved, a merge with live fields of distinct names holds first the saved fields that
are live, as they were first saved, in saved order, then the other live ones, hidden and in the
order of discovery. So it has the names of the live fields, each once. Its document can be read as a
saved list, and merging that gives the same fields again. -/
theorem reconcile_merged (distinct : live.names.Nodup) :
    (∃ kept fresh, (reconcile saved live).toList = kept ++ fresh ∧ Merged saved live kept fresh) ∧
    ((reconcile saved live).names.Nodup ∧ (reconcile saved live).names.Perm live.names) ∧
    ∀ kind, ∃ again,
      Schema.list (SavedField.ofValue kind) (reconcile saved live).toValue = .ok again ∧
        reconcile again live = reconcile saved live := by
  refine ⟨⟨_, _, toList_reconcile saved live, merged_parts saved distinct⟩,
    ⟨nodup_names_reconcile saved live distinct, names_reconcile_perm saved live distinct⟩, ?_⟩
  intro kind
  refine ⟨_, saved_toValue kind _, ?_⟩
  exact reconcile_toSaved distinct (reconcile_arranges saved live distinct)

/-- Saved entries of which one name is repeated, one is not live and one has an empty label. -/
def driftedEntries : List SavedField :=
  [⟨"Phone", some "", true, none⟩, ⟨"Fax", none, true, none⟩, ⟨"Id", some "Key", false, some false⟩,
    ⟨"Phone", some "Telephone", false, none⟩]

/-- Live fields, two of which were not saved. -/
def liveFields : FieldList :=
  ⟨[⟨"Id", "Id", true, true⟩, ⟨"Name", "Account name", true, true⟩,
    ⟨"Phone", "Phone no.", true, true⟩, ⟨"Rating", "Rating", true, false⟩]⟩

theorem reconcile_drifted :
    liveFields.names.Nodup ∧
    (∃ kept fresh, kept ++ fresh = [⟨"Phone", "Phone no.", true, true⟩, ⟨"Id", "Key", false, false⟩,
      ⟨"Name", "Account name", false, true⟩, ⟨"Rating", "Rating", false, true⟩] ∧
      Merged driftedEntries liveFields kept fresh) ∧
    (reconcile driftedEntries liveFields).names.Perm ["Id", "Name", "Phone", "Rating"] := by
  have distinct : liveFields.names.Nodup := by decide
  obtain ⟨⟨kept, fresh, same, parts⟩, ⟨-, names⟩, -⟩ := reconcile_merged driftedEntries distinct
  exact ⟨distinct, ⟨kept, fresh, same.symm.trans (by decide), parts⟩, names⟩

end FieldList

end TableView
