import TableView.Proofs.Config.Draft

/-!
# Calls that change a store

The calls that change a store, what they answer, and stores after a list of calls. A call has the
arguments that the schemas admit (`Call.Valid`); nothing else is asked of it, and it may fail.

What a call can make of a store is said once (`effect_perform`): nothing, a row more, a row with a
change, or a row that is marked as deleted. What each of these keeps is kept by every list of calls
(`after_invariant`).
-/

namespace TableView.Store

open Number

/-- A call that changes a store. -/
inductive Call
  | create (n : NewConfig)
  | update (id : Option Int) (change : ConfigChange)
  | save (c : Config) (name description : Option String) (id : Option Int)
  | delete (id : Option Int)

/-- What a call answers. -/
inductive Answer
  | saved (entry : SavedConfig)
  | id (id : Nat)
  | deleted (found : Bool)
  deriving DecidableEq

/-- The outcome of a call whose result is one kind of answer. -/
def answering {α σ : Type} (answer : α → Answer) (outcome : Except Failure α × σ) :
    Except Failure Answer × σ :=
  (outcome.1.map answer, outcome.2)

/-- Make a call. -/
def perform (s : Store) : Call → Except Failure Answer × Store
  | .create n => answering .saved (s.create n)
  | .update id change => answering .saved (s.update id change)
  | .save c name description id => answering .id (s.save c name description id)
  | .delete id => answering .deleted (s.delete id)

/-- The store after calls that are made one after another. -/
def after (s : Store) (calls : List Call) : Store :=
  calls.foldl (fun s call ↦ (s.perform call).2) s

theorem after_concat (s : Store) (calls : List Call) (call : Call) :
    s.after (calls ++ [call]) = ((s.after calls).perform call).2 := by
  rw [after, List.foldl_append]
  rfl

/-- Whether the arguments of a call are as the schemas admit them. -/
def Call.Valid : Call → Prop
  | create n => n.Valid
  | update _ change => change.Valid
  | save c _ _ _ => 0 < c.limit
  | delete _ => True

instance : (call : Call) → Decidable call.Valid
  | .create n => inferInstanceAs (Decidable n.Valid)
  | .update _ change => inferInstanceAs (Decidable change.Valid)
  | .save c _ _ _ => inferInstanceAs (Decidable (0 < c.limit))
  | .delete _ => inferInstanceAs (Decidable True)

/-- A configuration of one visible field. -/
def single (object : String) (limit : Nat) : Config :=
  ⟨1, object, [⟨"Id", none, true, none⟩], "", limit, none, .ascending, .plain, .initial⟩

/-- Calls of every kind. The first name is taken until its row is deleted, so that the second and
the fourth call fail; what fails later names a deleted row, an empty object and a blank name. At
last one draft is saved over a row and one as a new row. -/
def mixedCalls : List Call :=
  [.create ⟨"Accounts", some "All of them", single "Account" 50, none⟩,
    .create ⟨"Accounts", none, single "Account" 5, none⟩,
    .create ⟨"Leads", none, single "Lead" 50, some "admin"⟩,
    .update (some 2) ⟨some "Accounts", none, none⟩,
    .delete (some 1),
    .update (some 2) ⟨some "Accounts", some "Taken over", some (single "Contact" 7)⟩,
    .update (some 1) ⟨none, some "Gone", none⟩,
    .save (single "" 50) (some "Nothing") none none,
    .save (single "Lead" 50) (some "\t") none (some 2),
    .save (single "Contact" 9) (some " Accounts ") (some "Saved over") (some 2),
    .save (single "Lead" 50) (some " Leads ") none none]

variable {s s' : Store}

/-! ### Rows that are written -/

theorem row_of_findByName {name : String} {r : StoredConfig} (h : s.findByName name = some r) :
    r ∈ s.rows ∧ r.active = true ∧ r.name = name := by
  have passes := List.find?_some (p := fun r : StoredConfig ↦ r.active && r.name == name) h
  obtain ⟨active, named⟩ := Bool.and_eq_true_iff.mp passes
  exact ⟨List.mem_of_find?_eq_some h, active, beq_iff_eq.mp named⟩

theorem findByName_eq_none_iff {name : String} : s.findByName name = none ↔
    ∀ r ∈ s.rows, r.active = true → r.name ≠ name := by
  simp [findByName]

theorem mem_replace {id : Nat} {row r : StoredConfig} (h : r ∈ (s.replace id row).rows) :
    (r ∈ s.rows ∧ r.id ≠ id) ∨ r = row := by
  obtain ⟨old, mem, same⟩ := List.mem_map.mp h
  split at same
  · exact .inr same.symm
  · next other =>
    subst same
    exact .inl ⟨mem, other⟩

theorem ids_replace {id : Nat} {row : StoredConfig} (same : row.id = id) :
    (s.replace id row).rows.map StoredConfig.id = s.rows.map StoredConfig.id := by
  rw [replace, List.map_map]
  refine List.map_congr_left fun r _ ↦ ?_
  rw [Function.comp_apply]
  split
  · next here => exact same.trans here.symm
  · rfl

/-! ### What a call can do -/

theorem create_cases (s : Store) (n : NewConfig) : (∃ f, s.create n = (.error f, s)) ∨
    (s.checkInsert n = .ok () ∧
      s.create n = ((s.newRow n).saved, ⟨s.rows ++ [s.newRow n]⟩)) := by
  rw [create]
  cases s.checkInsert n with
  | error f => exact .inl ⟨f, rfl⟩
  | ok _ => exact .inr ⟨rfl, rfl⟩

theorem after_create {n : NewConfig} (checked : s.checkInsert n = .ok ()) :
    s.after [.create n] = ⟨s.rows ++ [s.newRow n]⟩ := by
  rw [after, List.foldl_cons, List.foldl_nil, perform, create, checked, answering]

theorem update_of_checked {id : Option Int} {r : StoredConfig} {change : ConfigChange}
    (found : s.find id = .ok (some r)) (checked : s.checkUpdate r change = .ok ()) :
    s.update id change = ((r.apply change).saved, s.replace r.id (r.apply change)) := by
  rw [update, found]
  dsimp only
  rw [checked]

theorem update_cases (s : Store) (id : Option Int) (change : ConfigChange) :
    (∃ f, s.update id change = (.error f, s)) ∨
    ∃ r, s.find id = .ok (some r) ∧ s.checkUpdate r change = .ok () := by
  cases found : s.find id with
  | error f => exact .inl ⟨f, by rw [update, found]⟩
  | ok row =>
    cases row with
    | none => exact .inl ⟨_, by rw [update, found]⟩
    | some r =>
      cases checked : s.checkUpdate r change with
      | error f =>
        refine .inl ⟨f, ?_⟩
        rw [update, found]
        dsimp only
        rw [checked]
      | ok _ => exact .inr ⟨r, rfl, checked⟩

theorem delete_cases (s : Store) (id : Option Int) :
    (∃ answer, s.delete id = (answer, s)) ∨
    ∃ r, s.find id = .ok (some r) ∧
      s.delete id = (.ok true, s.replace r.id { r with active := false }) := by
  cases found : s.find id with
  | error f => exact .inl ⟨.error f, by rw [delete, found]⟩
  | ok row =>
    cases row with
    | none => exact .inl ⟨.ok false, by rw [delete, found]⟩
    | some r => exact .inr ⟨r, rfl, by rw [delete, found]⟩

private theorem answering_idOf (outcome : Except Failure SavedConfig × Store) :
    answering .id (idOf outcome) = answering (fun entry ↦ .id entry.id) outcome := by
  rcases outcome with ⟨_ | _, _⟩
  · rfl
  · rfl

section Save

variable {c : Config} {name description : Option String} {id : Option Int}

theorem perform_save_of_new {n : NewConfig} (new : id.getD 0 = 0)
    (built : newOf c name description = .ok n) : s.perform (.save c name description id) =
      answering (fun entry ↦ .id entry.id) (s.create n) := by
  rw [perform, save, if_pos new, built]
  exact answering_idOf _

theorem perform_save_of_given {change : ConfigChange} (given : id.getD 0 ≠ 0)
    (built : changeOf c name description = .ok change) : s.perform (.save c name description id) =
      answering (fun entry ↦ .id entry.id) (s.update id change) := by
  rw [perform, save, if_neg given, built]
  exact answering_idOf _

/-- To save a draft is to create a row or to update one, unless the draft is refused. -/
theorem save_cases (s : Store) (c : Config) (name description : Option String)
    (id : Option Int) :
    (∃ f, s.perform (.save c name description id) = (.error f, s)) ∨
    (∃ n, newOf c name description = .ok n ∧ s.perform (.save c name description id) =
      answering (fun entry ↦ .id entry.id) (s.create n)) ∨
    ∃ change, id.getD 0 ≠ 0 ∧ changeOf c name description = .ok change ∧
      s.perform (.save c name description id) =
        answering (fun entry ↦ .id entry.id) (s.update id change) := by
  by_cases new : id.getD 0 = 0
  · cases built : newOf c name description with
    | ok n => exact .inr (.inl ⟨n, rfl, perform_save_of_new new built⟩)
    | _ => exact .inl ⟨_, by rw [perform, save, if_pos new, built]; rfl⟩
  · cases built : changeOf c name description with
    | ok change => exact .inr (.inr ⟨change, new, rfl, perform_save_of_given new built⟩)
    | _ => exact .inl ⟨_, by rw [perform, save, if_neg new, built]; rfl⟩

end Save

/-- What a call can make of a store. -/
inductive Effect (s : Store) : Store → Prop
  | kept : Effect s s
  | added (n : NewConfig) (valid : n.Valid) (checked : s.checkInsert n = .ok ()) :
    Effect s ⟨s.rows ++ [s.newRow n]⟩
  | changed (r : StoredConfig) (change : ConfigChange) (valid : change.Valid) (mem : r ∈ s.rows)
      (active : r.active = true) (checked : s.checkUpdate r change = .ok ()) :
    Effect s (s.replace r.id (r.apply change))
  | deleted (r : StoredConfig) (mem : r ∈ s.rows) (active : r.active = true) :
    Effect s (s.replace r.id { r with active := false })

private theorem effect_create {n : NewConfig} (valid : n.Valid) : s.Effect (s.create n).2 := by
  rcases s.create_cases n with ⟨f, same⟩ | ⟨checked, same⟩
  · rw [same]
    exact .kept
  · rw [same]
    exact .added n valid checked

private theorem effect_update {change : ConfigChange} (valid : change.Valid) (id : Option Int) :
    s.Effect (s.update id change).2 := by
  rcases s.update_cases id change with ⟨f, same⟩ | ⟨r, found, checked⟩
  · rw [same]
    exact .kept
  · obtain ⟨mem, active⟩ := exists_row_of_find found
    rw [update_of_checked found checked]
    exact .changed r change valid mem active checked

private theorem effect_delete (id : Option Int) : s.Effect (s.delete id).2 := by
  rcases s.delete_cases id with ⟨answer, same⟩ | ⟨r, found, same⟩
  · rw [same]
    exact .kept
  · obtain ⟨mem, active⟩ := exists_row_of_find found
    rw [same]
    exact .deleted r mem active

private theorem effect_save {c : Config} (positive : 0 < c.limit) (name description : Option String)
    (id : Option Int) : s.Effect (s.perform (.save c name description id)).2 := by
  rcases s.save_cases c name description id with
    ⟨f, same⟩ | ⟨n, built, same⟩ | ⟨change, -, built, same⟩
  · rw [same]
    exact .kept
  · rw [same]
    exact effect_create (valid_of_newOf built positive)
  · rw [same]
    exact effect_update (valid_of_changeOf built positive) id

theorem effect_perform {call : Call} (valid : call.Valid) : s.Effect (s.perform call).2 := by
  cases call with
  | create n => exact effect_create valid
  | update id change => exact effect_update valid id
  | save c name description id => exact effect_save valid name description id
  | delete id => exact effect_delete id

/-- What is kept by all that a call can do is kept by every list of calls. -/
theorem after_invariant {I : Store → Prop} (next : ∀ s s', I s → Effect s s' → I s')
    {calls : List Call} (valid : ∀ call ∈ calls, call.Valid) (first : I s) : I (s.after calls) := by
  -- Each call leaves another store, so the invariant of the first one has to stay general.
  induction calls generalizing s with
  | nil => exact first
  | cons call rest ih =>
    have step := next s _ first (effect_perform (valid call List.mem_cons_self))
    exact ih (fun other mem ↦ valid other (List.mem_cons_of_mem call mem)) step

end TableView.Store
