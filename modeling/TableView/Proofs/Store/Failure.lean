import Mathlib.Data.List.Nodup
import TableView.Proofs.Store.Sound

/-!
# Calls that fail

A call that fails leaves the store as it was, with one exception. A change is checked before it is
written, but its name is not bounded, and the row is read back after it was written, when its name
is. So a call that writes a row under a name of more than 255 characters fails and has made its
change (`unchanged_iff_of_failed`).
-/

namespace TableView

open Number

/-- A row that is kept is read back unless its name is too long. -/
theorem StoredConfig.Sound.saved_fails_iff {r : StoredConfig} (sound : r.Sound) :
    (∃ f, r.saved = .error f) ↔ maxNameLength < r.name.length := by
  obtain ⟨c, read, -⟩ := sound.config
  have named := boundedName_eq_self_iff.trans
    (and_iff_right (nonBlankName_eq_self_iff.mpr ⟨sound.shown, sound.trimmed⟩))
  unfold saved
  rw [read]
  dsimp only
  cases bounded : boundedName r.name with
  | ok name =>
    have trimmed : name = r.name := (eq_trim_of_boundedName bounded).trans sound.trimmed
    refine iff_of_false nofun (Nat.not_lt.mpr (named.mp ?_))
    rw [bounded, trimmed]
  | rejected faults =>
    refine iff_of_true ⟨_, rfl⟩ (Nat.lt_of_not_le fun short ↦ ?_)
    exact nomatch bounded.symm.trans (named.mpr short)
  | overflow message =>
    refine iff_of_true ⟨_, rfl⟩ (Nat.lt_of_not_le fun short ↦ ?_)
    exact nomatch bounded.symm.trans (named.mpr short)

namespace Store

/-- A call that writes over a row: it finds the row, and the change passes every check that is made
before it is written. -/
inductive Overwrites (s : Store) : Call → StoredConfig → ConfigChange → Prop
  | update {id : Option Int} {r : StoredConfig} {change : ConfigChange}
      (found : s.find id = .ok (some r)) (checked : s.checkUpdate r change = .ok ()) :
    Overwrites s (.update id change) r change
  | save {c : Config} {name description : Option String} {id : Option Int} {r : StoredConfig}
      {change : ConfigChange} (given : id.getD 0 ≠ 0)
      (built : changeOf c name description = .ok change) (found : s.find id = .ok (some r))
      (checked : s.checkUpdate r change = .ok ()) :
    Overwrites s (.save c name description id) r change

variable {s : Store} {call : Call} {r : StoredConfig} {change : ConfigChange}

/-! ### Calls that write over a row -/

theorem replace_eq_self_iff (ids : (s.rows.map StoredConfig.id).Nodup) (mem : r ∈ s.rows)
    {row : StoredConfig} : s.replace r.id row = s ↔ row = r := by
  refine ⟨fun same ↦ ?_, fun same ↦ ?_⟩
  · have rows : s.rows.map (fun other ↦ if other.id = r.id then row else other) =
        s.rows.map id := (congrArg Store.rows same).trans s.rows.map_id.symm
    exact (if_pos rfl).symm.trans (List.map_inj_left.mp rows r mem)
  · have rows : ∀ other ∈ s.rows, (if other.id = r.id then row else other) = id other := by
      intro other hother
      split
      · next here => exact same.trans (List.inj_on_of_nodup_map ids hother mem here).symm
      · rfl
    rw [replace, List.map_congr_left rows, List.map_id]

namespace Overwrites

theorem active_row (h : s.Overwrites call r change) : r ∈ s.rows ∧ r.active = true := by
  cases h with
  | update found checked => exact exists_row_of_find found
  | save given built found checked => exact exists_row_of_find found

theorem checked (h : s.Overwrites call r change) : s.checkUpdate r change = .ok () := by
  cases h with
  | update found checked => exact checked
  | save given built found checked => exact checked

theorem valid (h : s.Overwrites call r change) (valid : call.Valid) : change.Valid := by
  cases h with
  | update found checked => exact valid
  | save given built found checked => exact valid_of_changeOf built valid

/-- The row is written, and the answer is the row read back. -/
theorem perform_eq (h : s.Overwrites call r change) : ∃ answer,
    s.perform call =
      answering answer ((r.apply change).saved, s.replace r.id (r.apply change)) := by
  cases h with
  | update found checked => exact ⟨.saved, by rw [perform, update_of_checked found checked]⟩
  | save given built found checked =>
    exact ⟨_, by rw [perform_save_of_given given built, update_of_checked found checked]⟩

end Overwrites

/-- A row that is added is always read back. -/
theorem create_of_checked {n : NewConfig} (valid : n.Valid) (checked : s.checkInsert n = .ok ()) :
    ∃ entry, (s.newRow n).saved = .ok entry := by
  obtain ⟨-, digits, -⟩ := checkInsert_eq_ok_iff.mp checked
  exact ⟨_, StoredConfig.saved_of_print (r := s.newRow n) rfl valid.limit digits valid.name⟩

/-! ### Calls that fail -/

variable {f : Failure}

private theorem error_of_answering {α : Type} {answer : α → Answer}
    {outcome : Except Failure α × Store} (failed : (answering answer outcome).1 = .error f) :
    outcome.1 = .error f := by
  rcases outcome with ⟨_ | _, _⟩
  · exact congrArg Except.error (Except.error.inj failed)
  · nomatch failed

private theorem unchanged_of_create {n : NewConfig} (valid : n.Valid)
    (failed : (s.create n).1 = .error f) : (s.create n).2 = s := by
  rcases s.create_cases n with ⟨g, same⟩ | ⟨checked, same⟩
  · rw [same]
  · obtain ⟨entry, saved⟩ := create_of_checked valid checked
    rw [same, saved] at failed
    nomatch failed

/-- A call that fails leaves the store as it was, unless it writes over a row. -/
theorem unchanged_or_overwrites (valid : call.Valid) (failed : (s.perform call).1 = .error f) :
    (s.perform call).2 = s ∨ ∃ r change, s.Overwrites call r change := by
  cases call with
  | create n => exact .inl (unchanged_of_create valid (error_of_answering failed))
  | update id change =>
    rcases s.update_cases id change with ⟨g, same⟩ | ⟨r, found, checked⟩
    · exact .inl (by rw [perform, same, answering])
    · exact .inr ⟨r, change, .update found checked⟩
  | save c name description id =>
    rcases s.save_cases c name description id with
      ⟨g, same⟩ | ⟨n, built, same⟩ | ⟨change, given, built, same⟩
    · exact .inl (by rw [same])
    · rw [same] at failed ⊢
      exact .inl (unchanged_of_create (valid_of_newOf built valid) (error_of_answering failed))
    · rcases s.update_cases id change with ⟨g, kept⟩ | ⟨r, found, checked⟩
      · exact .inl (by rw [same, kept, answering])
      · exact .inr ⟨r, change, .save given built found checked⟩
  | delete id =>
    rcases s.delete_cases id with ⟨answer, same⟩ | ⟨r, -, same⟩
    · exact .inl (by rw [perform, same, answering])
    · rw [perform, same] at failed
      cases failed

/-- A call that writes over a row fails exactly if the row then has a name that is too long. -/
theorem Overwrites.fails_iff (h : s.Overwrites call r change) (sound : s.Sound)
    (valid : call.Valid) : (∃ f, (s.perform call).1 = .error f) ↔
      maxNameLength < (r.apply change).name.length := by
  have kept := sound.apply_of_checkUpdate h.active_row.1 (h.valid valid) h.checked
  obtain ⟨answer, same⟩ := h.perform_eq
  rw [← kept.saved_fails_iff, same]
  refine ⟨fun ⟨f, failed⟩ ↦ ⟨f, error_of_answering failed⟩, fun ⟨f, failed⟩ ↦ ⟨f, ?_⟩⟩
  rw [answering, failed]
  rfl

/-- A call that fails leaves the store as it was, unless it writes over a row and does not leave it
as it is. Then the change is made, and the call fails because the name is too long to be read
back. -/
theorem unchanged_iff_of_failed {calls : List Call} (before : ∀ other ∈ calls, other.Valid)
    (valid : call.Valid) (failed : ((empty.after calls).perform call).1 = .error f) :
    (((empty.after calls).perform call).2 = empty.after calls ↔
      ∀ r change, (empty.after calls).Overwrites call r change → r.apply change = r) ∧
    ∀ r change, (empty.after calls).Overwrites call r change →
      ((empty.after calls).perform call).2 = (empty.after calls).replace r.id (r.apply change) ∧
        maxNameLength < (r.apply change).name.length := by
  have sound := sound_empty.after before
  have written (r : StoredConfig) (change : ConfigChange)
      (h : (empty.after calls).Overwrites call r change) :
      ((empty.after calls).perform call).2 =
        (empty.after calls).replace r.id (r.apply change) := by
    obtain ⟨answer, same⟩ := h.perform_eq
    rw [same, answering]
  refine ⟨⟨fun unchanged r change h ↦ ?_, fun same ↦ ?_⟩, fun r change h ↦ ⟨written r change h, ?_⟩⟩
  · rw [written r change h] at unchanged
    exact (replace_eq_self_iff sound.ids h.active_row.1).mp unchanged
  -- A row that is written as it was leaves the store as it was, even if the call fails after it.
  · rcases unchanged_or_overwrites valid failed with unchanged | ⟨r, change, h⟩
    · exact unchanged
    · rw [written r change h]
      exact (replace_eq_self_iff sound.ids h.active_row.1).mpr (same r change h)
  · exact (h.fails_iff sound valid).mp ⟨f, failed⟩

/-! ### A change that is made and fails -/

/-- A name of a number of letters. -/
def letters (count : Nat) : String := String.ofList (List.replicate count 'x')

private theorem length_letters (count : Nat) : (letters count).length = count := by
  rw [letters, String.length_ofList, List.length_replicate]

private theorem nonBlankName_letters (count : Nat) :
    nonBlankName (letters (count + 1)) = .ok (letters (count + 1)) := by
  have letter : Text.isBlank 'x' = false := by decide +kernel
  have kept : (List.replicate (count + 1) 'x').dropWhile Text.isBlank =
      List.replicate (count + 1) 'x' := by
    rw [List.dropWhile_replicate, letter]
    rfl
  refine nonBlankName_eq_self_iff.mpr ⟨?_, ?_⟩
  · rw [Text.isBlankText, letters, String.toList_ofList, List.replicate_succ, List.all_cons, letter]
    rfl
  · rw [Text.trim, letters, String.toList_ofList, Text.trimBy, kept, Text.dropWhileEnd,
      List.reverse_replicate, kept, List.reverse_replicate]

/-- A configuration that is saved under a short name. -/
def accounts : NewConfig := ⟨"Accounts", none, single "Account" 50, none⟩

/-- The change of a name. -/
def rename (name : String) : ConfigChange := ⟨some name, none, none⟩

private theorem valid_accounts : ∀ call ∈ [Call.create accounts], call.Valid := by
  decide +kernel

private theorem valid_rename {name : String} (named : nonBlankName name = .ok name) :
    (Call.update (some 1) (rename name)).Valid := by
  refine ⟨fun given mem ↦ ?_, fun c mem ↦ absurd mem (Option.not_mem_none c)⟩
  cases mem
  exact named

private theorem after_accounts :
    empty.after [.create accounts] = ⟨[empty.newRow accounts]⟩ :=
  after_create (by decide +kernel)

/-- The only row can be renamed. -/
private theorem overwrites_rename (name : String) : (empty.after [.create accounts]).Overwrites
    (.update (some 1) (rename name)) (empty.newRow accounts) (rename name) := by
  have sound := sound_empty.after valid_accounts
  rw [after_accounts] at sound ⊢
  have none {P : Config → Prop} (c : Config) (mem : c ∈ (rename name).config) : P c :=
    absurd mem (Option.not_mem_none c)
  refine .update rfl (checkUpdate_eq_ok_iff.mpr ⟨checkChange_eq_ok_iff.mpr ⟨?_, none⟩, none⟩)
  intro given _ _
  refine sound.checkName_eq_ok_iff.mpr fun r mem _ _ ↦ ?_
  rw [List.mem_singleton.mp mem]

private theorem rename_fails {name : String} (named : nonBlankName name = .ok name)
    (long : maxNameLength < name.length) : ∃ f,
      ((empty.after [.create accounts]).perform (.update (some 1) (rename name))).1 = .error f :=
  ((overwrites_rename name).fails_iff (sound_empty.after valid_accounts) (valid_rename named)).mpr
    long

private theorem name_of_apply_rename {name : String}
    (same : (empty.newRow accounts).apply (rename name) = empty.newRow accounts) :
    name = "Accounts" :=
  congrArg StoredConfig.name same

/-- The row is renamed to a name that is one letter too long, and the call fails. -/
theorem unchanged_iff_of_renamed : ∃ name f,
    (∀ other ∈ [Call.create accounts], other.Valid) ∧
    (Call.update (some 1) (rename name)).Valid ∧
    ((empty.after [.create accounts]).perform (.update (some 1) (rename name))).1 = .error f ∧
    ((empty.after [.create accounts]).perform (.update (some 1) (rename name))).2 =
      (empty.after [.create accounts]).replace 1 ((empty.newRow accounts).apply (rename name)) ∧
    maxNameLength < name.length := by
  have named := nonBlankName_letters maxNameLength
  have long : maxNameLength < (letters (maxNameLength + 1)).length :=
    (Nat.lt_succ_self maxNameLength).trans_eq (length_letters (maxNameLength + 1)).symm
  obtain ⟨f, failed⟩ := rename_fails named long
  have settled := unchanged_iff_of_failed valid_accounts (valid_rename named) failed
  exact ⟨_, f, valid_accounts, valid_rename named, failed, settled.2 _ _ (overwrites_rename _)⟩

/-- A call can fail although it has changed a row. -/
theorem exists_failed_call_changes_row : ∃ calls call f, (∀ other ∈ calls, other.Valid) ∧
    call.Valid ∧ ((empty.after calls).perform call).1 = .error f ∧
      ((empty.after calls).perform call).2 ≠ empty.after calls := by
  have named := nonBlankName_letters maxNameLength
  have length := length_letters (maxNameLength + 1)
  obtain ⟨f, failed⟩ := rename_fails named ((Nat.lt_succ_self maxNameLength).trans_eq length.symm)
  have h := overwrites_rename (letters (maxNameLength + 1))
  obtain ⟨answer, same⟩ := h.perform_eq
  refine ⟨[.create accounts], _, f, valid_accounts, valid_rename named, failed, fun unchanged ↦ ?_⟩
  rw [same] at unchanged
  have ids := (sound_empty.after valid_accounts).ids
  have name := name_of_apply_rename ((replace_eq_self_iff ids h.active_row.1).mp unchanged)
  exact absurd (length.symm.trans (congrArg String.length name)) (by decide +kernel)

end Store

end TableView
