import Mathlib.Logic.Function.Iterate
import TableView.Proofs.Field.Names

/-!
# Moving a field next to another one

A move takes one field out and puts it back at another place, so a list before and after a move is
the same row of other fields with the field at one place of it and at another one. A move next to a
target puts the field beside it, whichever of the two came first (`reorder_eq`); nothing else does
(`movedBeside_iff`). Going from the one place to the other takes as many single steps up or down as
the places are apart (`eq_iterate_of_others`), and since the list before the move is in turn the
list after it with the field moved next to its old neighbour, the move can be undone
(`reorder_undone`).
-/

namespace TableView.FieldList

/-- A list that comes from another one by moving a field next to a target: it has the same fields,
all others are in the order they had, and the field stands immediately after the target or
immediately before it. -/
structure MovedBeside (fs now : FieldList) (moved target : String) (after : Bool) : Prop where
  fields : now.toList.Perm fs.toList
  others : now.toList.filter (·.name ≠ moved) = fs.toList.filter (·.name ≠ moved)
  beside : ∃ front back,
    now.names = front ++ (if after then [target, moved] else [moved, target]) ++ back

/-- A neighbour next to which a field can be put back: the one on its left, to be put after it, or
the one on its right, to be put before it, if the field is the first. -/
inductive Neighbour (names : List String) (name : String) : String → Bool → Prop
  | left {front back : List String} {other : String} (h : names = front ++ other :: name :: back) :
    Neighbour names name other true
  | right {back : List String} {other : String} (h : names = name :: other :: back) :
    Neighbour names name other false

/-! ### A field at its place among the others -/

section Place

variable {before rest front back : List Field} {f g : Field}

/-- Where names are distinct, the name of a field is on neither side of it. -/
theorem apart_of_nodup (distinct : ((before ++ f :: rest).map Field.name).Nodup) :
    f.name ∉ before.map Field.name ∧ f.name ∉ rest.map Field.name := by
  rw [List.map_append, List.map_cons, List.nodup_middle, List.nodup_cons, List.mem_append,
    not_or] at distinct
  exact distinct.1

private theorem ne_of_not_mem {fields : List Field} (h : f.name ∉ fields.map Field.name) :
    ∀ g ∈ fields, g.name ≠ f.name :=
  fun _ hg same ↦ h (same ▸ List.mem_map_of_mem hg)

/-- Leaving out a field leaves what is before and after it. -/
theorem filter_place (distinct : ((before ++ f :: rest).map Field.name).Nodup) :
    (before ++ f :: rest).filter (·.name ≠ f.name) = before ++ rest := by
  obtain ⟨left, right⟩ := apart_of_nodup distinct
  have keep {fields : List Field} (h : f.name ∉ fields.map Field.name) :
      fields.filter (·.name ≠ f.name) = fields :=
    List.filter_eq_self.mpr fun g hg ↦ decide_eq_true (ne_of_not_mem h g hg)
  rw [List.filter_append, List.filter_cons_of_neg (by simp), keep left, keep right]

private theorem eraseP_place (apart : f.name ∉ before.map Field.name) :
    (before ++ f :: rest).eraseP (·.name == f.name) = before ++ rest := by
  rw [List.eraseP_append_right, List.eraseP_cons_of_pos (by simp)]
  intro g hg same
  exact ne_of_not_mem apart g hg (beq_iff_eq.mp same)

private theorem get?_place (apart : f.name ∉ before.map Field.name) :
    (FieldList.mk (before ++ f :: rest)).get? f.name = some f := by
  have none : before.find? (·.name == f.name) = none := by
    refine List.find?_eq_none.mpr fun g hg same ↦ ?_
    exact ne_of_not_mem apart g hg (beq_iff_eq.mp same)
  rw [get?, List.find?_append, none, Option.none_or, List.find?_cons_of_pos (by simp)]

private theorem idxOf_place (apart : f.name ∉ before.map Field.name) :
    (FieldList.mk (before ++ f :: rest)).names.idxOf f.name = before.length := by
  rw [names, List.map_append, List.idxOf_append_of_notMem apart, List.map_cons,
    List.idxOf_cons_self, List.length_map, Nat.add_zero]

theorem exists_place {fs : FieldList} {name : String} (present : name ∈ fs.names) :
    ∃ before f rest, fs = ⟨before ++ f :: rest⟩ ∧ f.name = name := by
  obtain ⟨f, mem, rfl⟩ := List.mem_map.mp present
  obtain ⟨before, rest, place⟩ := List.append_of_mem mem
  exact ⟨before, f, rest, by rw [← place], rfl⟩

/-! ### One place beside the target -/

theorem insertBeside_place (f : Field) (after : Bool) (apart : g.name ∉ front.map Field.name) :
    insertBeside f g.name after (front ++ g :: back) =
      front ++ (if after then [g, f] else [f, g]) ++ back := by
  induction front with
  | nil => cases after <;> simp [insertBeside]
  | cons x front ih =>
    rw [List.map_cons, List.mem_cons, not_or] at apart
    rw [List.cons_append, insertBeside, if_neg (Ne.symm apart.1), ih apart.2]
    rfl

/-- A move puts the field beside its target among the other fields. -/
theorem reorder_eq (distinct : ((before ++ f :: rest).map Field.name).Nodup)
    (others : before ++ rest = front ++ g :: back) (after : Bool) :
    (FieldList.mk (before ++ f :: rest)).reorder f.name g.name after =
      ⟨front ++ (if after then [g, f] else [f, g]) ++ back⟩ := by
  obtain ⟨left, right⟩ := apart_of_nodup distinct
  have rest' : ((front ++ g :: back).map Field.name).Nodup := by
    rw [← others, List.map_append]
    rw [List.map_append, List.map_cons, List.nodup_middle] at distinct
    exact (List.nodup_cons.mp distinct).2
  have mem : g ∈ before ++ rest := by
    rw [others]
    exact List.mem_append_right _ List.mem_cons_self
  have differs : f.name ≠ g.name := by
    rcases List.mem_append.mp mem with hg | hg
    · exact (ne_of_not_mem left g hg).symm
    · exact (ne_of_not_mem right g hg).symm
  have has : (FieldList.mk (before ++ f :: rest)).has g.name = true := by
    rw [has_iff]
    refine List.mem_map_of_mem ?_
    rcases List.mem_append.mp mem with hg | hg
    · exact List.mem_append_left _ hg
    · exact List.mem_append_right _ (List.mem_cons_of_mem _ hg)
  rw [reorder, if_neg differs, get?_place left]
  dsimp only
  rw [if_pos has, eraseP_place left, others, insertBeside_place f after (apart_of_nodup rest').1]

end Place

variable {fs now : FieldList} {moved target : String} {after : Bool}

private theorem exists_pair {front back : List String}
    (h : now.names = front ++ (if after then [target, moved] else [moved, target]) ++ back) :
    ∃ left g f right, now = ⟨left ++ (if after then [g, f] else [f, g]) ++ right⟩ ∧
      g.name = target ∧ f.name = moved := by
  rcases now with ⟨fields⟩
  obtain ⟨start, right, rfl, named, -⟩ := List.map_eq_append_iff.mp h
  obtain ⟨left, pair, rfl, -, named⟩ := List.map_eq_append_iff.mp named
  cases after with
  | true =>
    obtain ⟨g, _, rfl, hg, named⟩ := List.map_eq_cons_iff.mp named
    obtain ⟨f, _, rfl, hf, named⟩ := List.map_eq_cons_iff.mp named
    cases List.map_eq_nil_iff.mp named
    exact ⟨left, g, f, right, rfl, hg, hf⟩
  | false =>
    obtain ⟨f, _, rfl, hf, named⟩ := List.map_eq_cons_iff.mp named
    obtain ⟨g, _, rfl, hg, named⟩ := List.map_eq_cons_iff.mp named
    cases List.map_eq_nil_iff.mp named
    exact ⟨left, g, f, right, rfl, hg, hf⟩

/-- Of the pair of a field and its target only the target is left among the other fields. -/
private theorem filter_pair {left right : List Field} {g f : Field}
    (distinct : ((left ++ (if after then [g, f] else [f, g]) ++ right).map Field.name).Nodup) :
    (left ++ (if after then [g, f] else [f, g]) ++ right).filter (·.name ≠ f.name) =
      left ++ g :: right := by
  cases after with
  | true =>
    have place : left ++ [g, f] ++ right = (left ++ [g]) ++ f :: right := by simp
    rw [if_pos rfl, place] at distinct ⊢
    rw [filter_place distinct, List.append_assoc]
    rfl
  | false =>
    have place : left ++ [f, g] ++ right = left ++ f :: (g :: right) := by simp
    rw [if_neg Bool.false_ne_true, place] at distinct ⊢
    exact filter_place distinct

/-- A move next to a present target gives the one list in which the field is beside its target and
all others are in their order. -/
theorem movedBeside_iff (distinct : fs.names.Nodup) (present : moved ∈ fs.names)
    (present' : target ∈ fs.names) (differs : moved ≠ target) :
    MovedBeside fs now moved target after ↔ now = fs.reorder moved target after := by
  obtain ⟨before, f, rest, rfl, rfl⟩ := exists_place present
  constructor
  · rintro ⟨fields, others, front, back, beside⟩
    obtain ⟨left, g, f', right, rfl, rfl, same⟩ := exists_pair beside
    have distinct' := (names_perm fields).nodup_iff.mpr distinct
    have mem : f' ∈ before ++ f :: rest := by
      refine fields.mem_iff.mp (List.mem_append_left _ (List.mem_append_right _ ?_))
      cases after <;> simp
    have mem' : f ∈ before ++ f :: rest := List.mem_append_right _ List.mem_cons_self
    obtain rfl := List.inj_on_of_nodup_map distinct mem mem' same
    rw [filter_place distinct, filter_pair distinct'] at others
    exact (reorder_eq distinct others.symm after).symm
  · rintro rfl
    have mem : target ∈ (before ++ rest).map Field.name := by
      rw [names, List.map_append, List.map_cons, List.mem_append, List.mem_cons] at present'
      rw [List.map_append, List.mem_append]
      exact present'.imp_right (·.resolve_left differs.symm)
    obtain ⟨g, hg, rfl⟩ := List.mem_map.mp mem
    obtain ⟨front, back, others⟩ := List.append_of_mem hg
    have perm := reorder_perm ⟨before ++ f :: rest⟩ f.name g.name after
    have distinct' := (names_perm perm).nodup_iff.mpr distinct
    refine ⟨perm, ?_, front.map Field.name, back.map Field.name, ?_⟩
    · rw [reorder_eq distinct others] at distinct' ⊢
      rw [filter_pair distinct', filter_place distinct, others]
    · rw [reorder_eq distinct others, names]
      cases after <;> simp

/-! ### Step by step -/

section Steps

variable {before rest : List Field} {f g : Field}

private theorem moveDown_place (apart : f.name ∉ before.map Field.name) :
    (FieldList.mk (before ++ f :: g :: rest)).moveDown f.name = ⟨before ++ g :: f :: rest⟩ := by
  refine congrArg FieldList.mk ?_
  induction before with
  | nil => simp [swapForth]
  | cons x before ih =>
    rw [List.map_cons, List.mem_cons, not_or] at apart
    have other : x.name ≠ f.name := Ne.symm apart.1
    cases before with
    | nil => simp [swapForth, other]
    | cons y before =>
      simp only [List.cons_append, swapForth, if_neg other]
      exact congrArg (x :: ·) (ih apart.2)

private theorem moveUp_place (apart : f.name ∉ before.map Field.name) (other : g.name ≠ f.name) :
    (FieldList.mk (before ++ g :: f :: rest)).moveUp f.name = ⟨before ++ f :: g :: rest⟩ := by
  refine congrArg FieldList.mk ?_
  induction before with
  | nil => simp [swapBack, other]
  | cons x before ih =>
    rw [List.map_cons, List.mem_cons, not_or] at apart
    have first : x.name ≠ f.name := Ne.symm apart.1
    cases before with
    | nil => simp [swapBack, first, other]
    | cons y before =>
      have second : y.name ≠ f.name := fun same ↦ apart.2 (same ▸ List.mem_cons_self)
      simp only [List.cons_append, swapBack, if_neg first, if_neg second]
      exact congrArg (x :: ·) (ih apart.2)

private theorem moveDown_iterate {between : List Field}
    (apart : f.name ∉ (before ++ between).map Field.name) :
    (moveDown · f.name)^[between.length] ⟨before ++ f :: (between ++ rest)⟩ =
      ⟨before ++ (between ++ f :: rest)⟩ := by
  induction between generalizing before with
  | nil => rfl
  | cons g between ih =>
    have left : f.name ∉ before.map Field.name := fun mem ↦
      apart (List.map_append ▸ List.mem_append_left _ mem)
    have along : f.name ∉ (before ++ [g] ++ between).map Field.name := by
      rwa [List.append_assoc]
    have step : (FieldList.mk (before ++ f :: g :: (between ++ rest))).moveDown f.name =
        ⟨before ++ g :: f :: (between ++ rest)⟩ := moveDown_place left
    rw [List.length_cons, Function.iterate_succ_apply, List.cons_append, step]
    simpa using ih along

private theorem moveUp_iterate {between : List Field}
    (apart : f.name ∉ (before ++ between).map Field.name) :
    (moveUp · f.name)^[between.length] ⟨before ++ (between ++ f :: rest)⟩ =
      ⟨before ++ f :: (between ++ rest)⟩ := by
  induction between generalizing before with
  | nil => rfl
  | cons g between ih =>
    have left : f.name ∉ before.map Field.name := fun mem ↦
      apart (List.map_append ▸ List.mem_append_left _ mem)
    have other : g.name ≠ f.name := fun same ↦ apart (by simp [same])
    have along : f.name ∉ (before ++ [g] ++ between).map Field.name := by
      rwa [List.append_assoc]
    -- The steps over the later fields come first, the one over `g` last.
    have later := ih along
    rw [List.append_assoc, List.append_assoc] at later
    rw [List.length_cons, Function.iterate_succ_apply']
    exact (congrArg (·.moveUp f.name) later).trans (moveUp_place left other)

end Steps

/-- A list with the same fields, all of them in order but for one, is reached by moving this one up
or down as many times as its places are apart. -/
theorem eq_iterate_of_others (distinct : fs.names.Nodup) (present : moved ∈ fs.names)
    (fields : now.toList.Perm fs.toList)
    (others : now.toList.filter (·.name ≠ moved) = fs.toList.filter (·.name ≠ moved)) :
    let here := fs.names.idxOf moved
    let there := now.names.idxOf moved
    (here ≤ there → now = (moveDown · moved)^[there - here] fs) ∧
      (there ≤ here → now = (moveUp · moved)^[here - there] fs) := by
  have distinct' := (names_perm fields).nodup_iff.mpr distinct
  have present' : moved ∈ now.names := (names_perm fields).mem_iff.mpr present
  obtain ⟨before, f, rest, rfl, rfl⟩ := exists_place present
  obtain ⟨front, f', back, rfl, same⟩ := exists_place present'
  have mem : f' ∈ before ++ f :: rest :=
    fields.mem_iff.mp (List.mem_append_right _ List.mem_cons_self)
  have mem' : f ∈ before ++ f :: rest := List.mem_append_right _ List.mem_cons_self
  obtain rfl := List.inj_on_of_nodup_map distinct mem mem' same
  have apart := (apart_of_nodup distinct).1
  have apart' := (apart_of_nodup distinct').1
  rw [filter_place distinct, filter_place distinct'] at others
  rw [idxOf_place apart, idxOf_place apart']
  rcases List.append_eq_append_iff.mp others with ⟨between, rfl, rfl⟩ | ⟨between, rfl, rfl⟩
  · constructor
    · intro down
      have none : between = [] := by
        refine List.eq_nil_of_length_eq_zero ?_
        rw [List.length_append] at down
        omega
      subst none
      simp
    · intro _
      rw [List.length_append, Nat.add_sub_cancel_left, List.append_assoc]
      exact (moveUp_iterate apart).symm
  · constructor
    · intro _
      rw [List.length_append, Nat.add_sub_cancel_left, List.append_assoc]
      exact (moveDown_iterate apart').symm
    · intro up
      have none : between = [] := by
        refine List.eq_nil_of_length_eq_zero ?_
        rw [List.length_append] at up
        omega
      subst none
      simp

/-! ### Back to the old place -/

/-- A field that is not alone has a neighbour to be put back next to. -/
theorem exists_neighbour {names : List String} (present : moved ∈ names)
    (present' : target ∈ names) (differs : moved ≠ target) :
    ∃ other after, Neighbour names moved other after := by
  obtain ⟨front, back, rfl⟩ := List.append_of_mem present
  rcases List.eq_nil_or_concat front with rfl | ⟨front, other, rfl⟩
  · cases back with
    | nil => exact absurd (List.mem_singleton.mp present').symm differs
    | cons other back => exact ⟨other, false, .right rfl⟩
  · exact ⟨other, true, .left List.concat_append⟩

private theorem Neighbour.present {names : List String} {name other : String} {after : Bool}
    (h : Neighbour names name other after) (distinct : names.Nodup) :
    other ∈ names ∧ name ≠ other := by
  cases h with
  | left h =>
    subst h
    rw [List.nodup_append, List.nodup_cons] at distinct
    exact ⟨by simp, fun same ↦ distinct.2.1.1 (same ▸ List.mem_cons_self)⟩
  | right h =>
    subst h
    exact ⟨by simp, fun same ↦ (List.nodup_cons.mp distinct).1 (same ▸ List.mem_cons_self)⟩

/-- The list before a move is the list after it with the field beside its old neighbour. -/
theorem reorder_undone (distinct : fs.names.Nodup) (present : moved ∈ fs.names)
    {other : String} {side : Bool} (neighbour : Neighbour fs.names moved other side)
    (h : MovedBeside fs now moved target after) : now.reorder moved other side = fs := by
  have perm := names_perm h.fields
  obtain ⟨present', differs⟩ := neighbour.present distinct
  refine ((movedBeside_iff (perm.nodup_iff.mpr distinct) (perm.mem_iff.mpr present)
    (perm.mem_iff.mpr present') differs).mp ⟨h.fields.symm, h.others.symm, ?_⟩).symm
  cases neighbour with
  | @left front back _ h => exact ⟨front, back, by rw [h, List.append_assoc]; rfl⟩
  | @right back _ h => exact ⟨[], back, h⟩

/-- Of two fields of a list, moving one next to the other gives the one list in which it stands
immediately after or before the other one and all other fields keep their order. The same list is
reached by moving the field up or down as many times as its place changes. To move the field next to
its old left neighbour, or before its old right one if it was the first, gives back the list as it
was. -/
theorem reorder_moves (distinct : fs.names.Nodup) (present : moved ∈ fs.names)
    (present' : target ∈ fs.names) (differs : moved ≠ target) (after : Bool) :
    let now := fs.reorder moved target after
    let here := fs.names.idxOf moved
    let there := now.names.idxOf moved
    (∀ result, MovedBeside fs result moved target after ↔ result = now) ∧
    ((here ≤ there → now = (moveDown · moved)^[there - here] fs) ∧
      (there ≤ here → now = (moveUp · moved)^[here - there] fs)) ∧
    (∃ other side, Neighbour fs.names moved other side) ∧
    ∀ other side, Neighbour fs.names moved other side → now.reorder moved other side = fs := by
  have only (result : FieldList) : MovedBeside fs result moved target after ↔
      result = fs.reorder moved target after :=
    movedBeside_iff distinct present present' differs
  have beside := (only _).mpr rfl
  exact ⟨only, eq_iterate_of_others distinct present beside.fields beside.others,
    exists_neighbour present present' differs,
    fun _ _ neighbour ↦ reorder_undone distinct present neighbour beside⟩

/-- Five fields, of which the first one has no left neighbour. -/
def fiveFields : FieldList :=
  ⟨[⟨"Id", "Id", true, true⟩, ⟨"Name", "Name", true, false⟩, ⟨"Phone", "Phone no.", false, true⟩,
    ⟨"Fax", "Fax", true, true⟩, ⟨"Site", "", false, false⟩]⟩

theorem reorder_moves_first :
    fiveFields.names.Nodup ∧ "Id" ∈ fiveFields.names ∧ "Fax" ∈ fiveFields.names ∧
    (fiveFields.reorder "Id" "Fax" true).names = ["Name", "Phone", "Fax", "Id", "Site"] ∧
    fiveFields.reorder "Id" "Fax" true = (moveDown · "Id")^[3] fiveFields ∧
    (fiveFields.reorder "Id" "Fax" true).reorder "Id" "Name" false = fiveFields := by
  have distinct : fiveFields.names.Nodup := by decide
  have present : "Id" ∈ fiveFields.names := by decide
  have present' : "Fax" ∈ fiveFields.names := by decide
  obtain ⟨-, ⟨down, -⟩, -, undone⟩ := reorder_moves distinct present present' (by decide) true
  exact ⟨distinct, present, present', by decide, down (by decide), undone "Name" false (.right rfl)⟩

end TableView.FieldList
