import TableView.Proofs.Field.Names

/-!
# Runs of edits

However a field list came about, its names are distinct (`Built.nodup`), and so an operation that
looks for the first field of a name finds the only one. An edit then changes one attribute of the
fields it names and nothing else, not even their order; a move changes the order and nothing else
(`edit_perm`). After any run of them the list has the fields it had, each as the edits of its own
name have made it (`editAll_perm`).

A view of a list keeps no fields: whenever it was opened, it shows the list as that is when it is
looked at. So a view of the selected fields and one of the others split the list in two
(`fields_of_edits`).
-/

namespace TableView

/-- An edit of the fields of a list or a move of one of them. Names may be absent from the list. -/
inductive FieldEdit
  | setVisible (name : String) (visible : Bool)
  | setLabel (name label : String)
  | setSortable (name : String) (sortable : Bool)
  | setAllVisible (visible : Bool)
  | moveUp (name : String)
  | moveDown (name : String)
  | reorder (moved target : String) (after : Bool)

namespace FieldEdit

/-- Whether only the order of the fields is changed. -/
def isMove : FieldEdit → Bool
  | moveUp _ | moveDown _ | reorder _ _ _ => true
  | _ => false

/-- What becomes of a field: the attribute that is named changes if the field is named. -/
def onField (f : Field) : FieldEdit → Field
  | setVisible name visible => if f.name = name then { f with visible := visible } else f
  | setLabel name label => if f.name = name then { f with label := label } else f
  | setSortable name sortable => if f.name = name then { f with sortable := sortable } else f
  | setAllVisible visible => { f with visible := visible }
  | _ => f

theorem name_onField (e : FieldEdit) (f : Field) : (e.onField f).name = f.name := by
  cases e with
  | setVisible name visible | setLabel name label | setSortable name sortable =>
    simp only [onField]
    split <;> rfl
  | _ => rfl

theorem onField_of_move {e : FieldEdit} (move : e.isMove = true) (f : Field) :
    e.onField f = f := by
  cases e with
  | moveUp _ | moveDown _ | reorder _ _ _ => rfl
  | _ => cases move

end FieldEdit

namespace FieldList

/-- The list after an edit or a move. -/
def edit (fs : FieldList) : FieldEdit → FieldList
  | .setVisible name visible => fs.setVisible name visible
  | .setLabel name label => fs.setLabel name label
  | .setSortable name sortable => fs.setSortable name sortable
  | .setAllVisible visible => fs.setAllVisible visible
  | .moveUp name => fs.moveUp name
  | .moveDown name => fs.moveDown name
  | .reorder moved target after => fs.reorder moved target after

/-- The list after edits and moves, one after another. -/
def editAll (fs : FieldList) (edits : List FieldEdit) : FieldList := edits.foldl edit fs

/-- A field list as it can come about: from discovered fields, from given ones, from saved ones as
they are or merged with a list of live ones, and by editing any of these. -/
inductive Built : FieldList → Prop
  | discovered {found : List DiscoveredField} {fs : FieldList} (h : ofDiscovered found = .ok fs) :
    Built fs
  | given {fields : List Field} {fs : FieldList} (h : ofFields fields = .ok fs) : Built fs
  | saved (saved : List SavedField) : Built (ofSaved saved)
  | merged (saved : List SavedField) {live : FieldList} (h : Built live) :
    Built (reconcile saved live)
  | edited {fs : FieldList} (h : Built fs) (e : FieldEdit) : Built (fs.edit e)

/-! ### One edit -/

/-- Where names are distinct, the first field of a name is the only one. -/
private theorem editFirst_eq_map (name : String) (change : Field → Field) (fields : List Field)
    (distinct : (fields.map Field.name).Nodup) :
    editFirst name change fields = fields.map fun f ↦ if f.name = name then change f else f := by
  induction fields with
  | nil => rfl
  | cons f rest ih =>
    obtain ⟨fresh, distinct⟩ := List.nodup_cons.mp distinct
    rw [editFirst, List.map_cons]
    split
    · next same =>
      subst same
      have others : (rest.map fun g ↦ if g.name = f.name then change g else g) = rest := by
        refine (List.map_congr_left fun g hg ↦ if_neg fun same ↦ fresh ?_).trans (List.map_id rest)
        exact same ▸ List.mem_map_of_mem hg
      rw [others]
    · rw [ih distinct]

variable {fs : FieldList}

/-- An edit of attributes leaves every field in its place. -/
theorem edit_of_not_move (distinct : fs.names.Nodup) {e : FieldEdit} (stays : e.isMove = false) :
    (fs.edit e).toList = fs.toList.map e.onField := by
  cases e with
  | setVisible name visible => exact editFirst_eq_map name _ fs.toList distinct
  | setLabel name label => exact editFirst_eq_map name _ fs.toList distinct
  | setSortable name sortable => exact editFirst_eq_map name _ fs.toList distinct
  | setAllVisible visible => rfl
  | moveUp _ | moveDown _ | reorder _ _ _ => cases stays

/-- A move leaves every field as it is. -/
theorem edit_of_move {e : FieldEdit} (move : e.isMove = true) :
    (fs.edit e).toList.Perm fs.toList := by
  cases e with
  | moveUp name => exact fs.moveUp_perm name
  | moveDown name => exact fs.moveDown_perm name
  | reorder moved target after => exact fs.reorder_perm moved target after
  | _ => cases move

theorem edit_perm (distinct : fs.names.Nodup) (e : FieldEdit) :
    (fs.edit e).toList.Perm (fs.toList.map e.onField) := by
  cases move : e.isMove with
  | false => exact .of_eq (edit_of_not_move distinct move)
  | true =>
    rw [(List.map_congr_left fun f _ ↦ e.onField_of_move move f).trans (List.map_id fs.toList)]
    exact edit_of_move move

theorem names_edit_perm (distinct : fs.names.Nodup) (e : FieldEdit) :
    (fs.edit e).names.Perm fs.names := by
  have same : (fs.toList.map e.onField).map Field.name = fs.names := by
    rw [List.map_map]
    exact List.map_congr_left fun f _ ↦ e.name_onField f
  exact same ▸ (edit_perm distinct e).map Field.name

theorem nodup_edit (distinct : fs.names.Nodup) (e : FieldEdit) : (fs.edit e).names.Nodup :=
  (names_edit_perm distinct e).nodup_iff.mpr distinct

/-! ### Runs of edits -/

theorem names_editAll_perm (distinct : fs.names.Nodup) (edits : List FieldEdit) :
    (fs.editAll edits).names.Perm fs.names := by
  induction edits generalizing fs with
  | nil => exact .refl _
  | cons e rest ih => exact (ih (nodup_edit distinct e)).trans (names_edit_perm distinct e)

/-- After a run of edits the list has the fields it had, each as the edits have made it. -/
theorem editAll_perm (distinct : fs.names.Nodup) (edits : List FieldEdit) :
    (fs.editAll edits).toList.Perm (fs.toList.map fun f ↦ edits.foldl FieldEdit.onField f) := by
  induction edits generalizing fs with
  | nil => exact .of_eq (List.map_id fs.toList).symm
  | cons e rest ih =>
    have first := (edit_perm distinct e).map fun f ↦ rest.foldl FieldEdit.onField f
    rw [List.map_map] at first
    exact (ih (nodup_edit distinct e)).trans first

/-! ### Where field lists come from -/

private theorem firstRepeated?_eq_none_iff (seen : List String) (fields : List Field) :
    firstRepeated? seen fields = none ↔
      (fields.map Field.name).Nodup ∧ ∀ f ∈ fields, f.name ∉ seen := by
  induction fields generalizing seen with
  | nil => simp [firstRepeated?]
  | cons f rest ih =>
    rw [firstRepeated?, List.map_cons, List.nodup_cons, List.forall_mem_cons]
    split
    · next known =>
      have known := List.contains_iff_mem.mp known
      exact iff_of_false nofun fun h ↦ h.2.1 known
    · next fresh =>
      have fresh : f.name ∉ seen := fun mem ↦ fresh (List.contains_iff_mem.mpr mem)
      rw [ih]
      simp only [List.mem_cons, not_or, List.mem_map, not_exists, not_and]
      constructor
      · rintro ⟨distinct, apart⟩
        exact ⟨⟨fun g hg ↦ (apart g hg).1, distinct⟩, fresh, fun g hg ↦ (apart g hg).2⟩
      · rintro ⟨⟨other, distinct⟩, -, apart⟩
        exact ⟨distinct, fun g hg ↦ ⟨other g hg, apart g hg⟩⟩

/-- Given fields are taken exactly if their names are distinct. -/
theorem ofFields_eq_ok_iff (fields : List Field) (fs : FieldList) :
    ofFields fields = .ok fs ↔ fs = ⟨fields⟩ ∧ fs.names.Nodup := by
  rw [ofFields]
  split
  · next name repeated =>
    refine iff_of_false nofun ?_
    rintro ⟨rfl, distinct⟩
    have none := (firstRepeated?_eq_none_iff [] fields).mpr ⟨distinct, fun _ _ ↦ List.not_mem_nil⟩
    cases repeated.symm.trans none
  · next none =>
    have distinct := ((firstRepeated?_eq_none_iff [] fields).mp none).1
    constructor
    · rintro ⟨⟩
      exact ⟨rfl, distinct⟩
    · rintro ⟨rfl, -⟩
      rfl

theorem nodup_names_ofSaved (saved : List SavedField) : (ofSaved saved).names.Nodup := by
  rw [names, ofSaved, List.map_map]
  exact nodup_map_firstOfEach SavedField.name saved

theorem Built.nodup (built : Built fs) : fs.names.Nodup := by
  induction built with
  | discovered h => exact nodup_names_ofDiscovered h
  | given h => exact ((ofFields_eq_ok_iff _ _).mp h).2
  | saved saved => exact nodup_names_ofSaved saved
  | merged saved h ih => exact nodup_names_reconcile saved _ ih
  | edited h e ih => exact nodup_edit ih e

/-! ### Views -/

end FieldList

/-- What is done with a field list: it is edited, or a view of it is opened. -/
inductive FieldAct
  | edit (e : FieldEdit)
  | view (filter : FieldFilter)

namespace FieldAct

/-- The edit that is made, if it is one. -/
def edit? : FieldAct → Option FieldEdit
  | edit e => some e
  | view _ => none

/-- What the view shows that is opened, if it is one. -/
def view? : FieldAct → Option FieldFilter
  | edit _ => none
  | view filter => some filter

end FieldAct

/-- A field list with the views of it, in the order in which they were opened. A view holds on to
the list and has no fields of its own. -/
structure ViewedList where
  list : FieldList
  views : List FieldFilter

namespace ViewedList

/-- The list after an edit, or with another view of it. -/
def act (v : ViewedList) : FieldAct → ViewedList
  | .edit e => { v with list := v.list.edit e }
  | .view filter => { v with views := v.views ++ [filter] }

/-- The list and its views after edits and openings, one after another. -/
def actAll (v : ViewedList) (acts : List FieldAct) : ViewedList := acts.foldl act v

/-- The fields that a view shows when it is looked at. -/
def look (v : ViewedList) (k : Nat) : List Field :=
  (v.views[k]?.map v.list.shown).getD []

variable {v : ViewedList}

theorem look_of_view {k : Nat} {filter : FieldFilter} (h : v.views[k]? = some filter) :
    v.look k = v.list.shown filter := by
  rw [look, h]
  rfl

/-- To open a view changes nothing of the list. -/
theorem list_actAll (v : ViewedList) (acts : List FieldAct) :
    (v.actAll acts).list = v.list.editAll (acts.filterMap FieldAct.edit?) := by
  induction acts generalizing v with
  | nil => rfl
  | cons a rest ih =>
    cases a with
    | edit e => exact ih _
    | view filter => exact ih _

/-- An edit closes no view. -/
theorem views_actAll (v : ViewedList) (acts : List FieldAct) :
    (v.actAll acts).views = v.views ++ acts.filterMap FieldAct.view? := by
  induction acts generalizing v with
  | nil => exact (List.append_nil _).symm
  | cons a rest ih =>
    cases a with
    | edit e => exact ih _
    | view filter =>
      refine (ih (v.act (.view filter))).trans ?_
      exact List.append_assoc v.views [filter] _

end ViewedList

namespace FieldList

variable {fs : FieldList}

/-- Two views split a list. Both have their fields in the order of the list; one shows exactly those
that are visible, and the other one the rest. -/
structure Split (fs : FieldList) (selected unselected : List Field) : Prop where
  inOrder : selected.Sublist fs.toList ∧ unselected.Sublist fs.toList
  visible : ∀ f, f ∈ selected ↔ f ∈ fs.toList ∧ f.visible = true
  hidden : ∀ f, f ∈ unselected ↔ f ∈ fs.toList ∧ f.visible = false
  count : selected.length + unselected.length = fs.size

theorem shown_split (fs : FieldList) : fs.Split (fs.shown .selected) (fs.shown .unselected) where
  inOrder := ⟨List.filter_sublist, List.filter_sublist⟩
  visible f := by simp [shown, FieldFilter.admits]
  hidden f := by simp [shown, FieldFilter.admits]
  count := (List.length_eq_length_filter_add Field.visible).symm

/-- Whatever edits and moves a field list has seen, and whenever views of it were opened, its names
are distinct and the ones it had. Yet another edit changes only the attribute it names of the fields
it names, and a move only the order; each field is as the edits have made it. A view of the selected
fields and one of the others split the list as it is by then. -/
theorem fields_of_edits (built : Built fs) (acts : List FieldAct) :
    let now := (ViewedList.mk fs []).actAll acts
    let edits := acts.filterMap FieldAct.edit?
    (now.list.names.Nodup ∧ now.list.names.Perm fs.names) ∧
    (∀ e : FieldEdit,
      (e.isMove = true → (now.list.edit e).toList.Perm now.list.toList) ∧
      (e.isMove = false → (now.list.edit e).toList = now.list.toList.map e.onField)) ∧
    now.list.toList.Perm (fs.toList.map fun f ↦ edits.foldl FieldEdit.onField f) ∧
    now.views = acts.filterMap FieldAct.view? ∧
    ∀ k l, now.views[k]? = some .selected → now.views[l]? = some .unselected →
      now.list.Split (now.look k) (now.look l) := by
  intro now edits
  have list : now.list = fs.editAll edits := ViewedList.list_actAll _ acts
  have distinct := built.nodup
  have names := names_editAll_perm distinct edits
  have distinct' := names.nodup_iff.mpr distinct
  rw [list]
  refine ⟨⟨distinct', names⟩, fun e ↦ ⟨edit_of_move, edit_of_not_move distinct'⟩,
    editAll_perm distinct edits, ViewedList.views_actAll _ acts, fun k l selected unselected ↦ ?_⟩
  rw [ViewedList.look_of_view selected, ViewedList.look_of_view unselected, list]
  exact shown_split _

/-- Saved fields of which one is repeated. -/
def phoneFields : FieldList :=
  ofSaved [⟨"Id", none, true, none⟩, ⟨"Name", some "Account name", false, some false⟩,
    ⟨"Id", some "Key", false, none⟩, ⟨"Phone", none, true, none⟩]

/-- Edits and moves of fields that are there and of one that is not, with two views that are opened
before and among them. -/
def phoneActs : List FieldAct :=
  [.view .selected, .edit (.reorder "Id" "Phone" true), .edit (.setLabel "Phone" "Telephone"),
    .edit (.moveUp "Fax"), .edit (.setAllVisible false), .view .unselected,
    .edit (.setVisible "Fax" true), .edit (.setVisible "Name" true), .edit (.moveDown "Name"),
    .edit (.reorder "Fax" "Id" false)]

theorem fields_of_phoneActs :
    let now := (ViewedList.mk phoneFields []).actAll phoneActs
    Built phoneFields ∧ now.list.names.Perm ["Id", "Name", "Phone"] ∧
    now.list.toList.Perm [⟨"Id", "Id", false, true⟩, ⟨"Name", "Account name", true, false⟩,
      ⟨"Phone", "Telephone", false, true⟩] ∧
    (now.look 0).map Field.name = ["Name"] ∧ (now.look 1).map Field.name = ["Phone", "Id"] ∧
    now.list.Split (now.look 0) (now.look 1) := by
  have built : Built phoneFields := .saved _
  obtain ⟨⟨-, names⟩, -, fields, -, split⟩ := fields_of_edits built phoneActs
  exact ⟨built, names.trans (.of_eq (by decide)), fields.trans (.of_eq (by decide)), by decide,
    by decide, split 0 1 rfl rfl⟩

end FieldList

end TableView
