import TableView.Proofs.Config.Reading
import TableView.Proofs.Config.Stored
import TableView.Proofs.Text.Trim
import TableView.Store.Basic

/-!
# Saved configurations read back

What was saved is found under the id that the store gave for it, with the name and the description
it was saved with and the same configuration (`Store.get_of_save`), whether it was saved as a new
one or over another one. The store trims the name.
-/

namespace TableView

open Number

/-! ### Names -/

theorem eq_trim_of_boundedName {s name : String} (h : boundedName s = .ok name) :
    name = Text.trim s := by
  unfold boundedName at h
  split at h
  · nomatch h
  · split at h
    · nomatch h
    · exact (Schema.Check.ok.inj h).symm

/-- A name that is accepted is accepted again as it is stored. -/
theorem boundedName_of_boundedName {s name : String} (h : boundedName s = .ok name) :
    boundedName name = .ok name := by
  cases eq_trim_of_boundedName h
  unfold boundedName at h ⊢
  rw [Text.trim_trim]
  split at h
  · nomatch h
  · next shown =>
    split at h
    · nomatch h
    · next short =>
      have shown' := Text.isBlankText_trim (Bool.eq_false_iff.mpr shown)
      rw [if_neg (Bool.eq_false_iff.mp shown'), if_neg short]

theorem eq_trim_of_nonBlankName {s name : String} (h : nonBlankName s = .ok name) :
    name = Text.trim s := by
  unfold nonBlankName at h
  split at h
  · nomatch h
  · exact (Schema.Check.ok.inj h).symm

/-! ### Rows -/

/-- A saved configuration as its schema admits it. -/
structure SavedConfig.Valid (entry : SavedConfig) : Prop where
  name : boundedName entry.name = .ok entry.name
  limit : 0 < entry.config.limit

/-- A row that is read back has its own values, the name trimmed, and the configuration that its
text holds. -/
theorem StoredConfig.saved_eq_ok {r : StoredConfig} {entry : SavedConfig}
    (h : r.saved = .ok entry) : ∃ config, r.config = .ok config ∧
      boundedName r.name = .ok (Text.trim r.name) ∧
      entry = ⟨r.id, Text.trim r.name, r.description, r.object, r.createdBy, r.active, config⟩ := by
  unfold saved at h
  cases hc : r.config with
  | error f =>
    rw [hc] at h
    nomatch h
  | ok config =>
    rw [hc] at h
    cases hn : boundedName r.name with
    | rejected faults =>
      rw [hn] at h
      nomatch h
    | overflow message =>
      rw [hn] at h
      nomatch h
    | ok name =>
      rw [hn] at h
      cases h
      cases eq_trim_of_boundedName hn
      exact ⟨config, rfl, rfl, rfl⟩

theorem StoredConfig.valid_of_saved {r : StoredConfig} {entry : SavedConfig}
    (h : r.saved = .ok entry) : entry.Valid := by
  obtain ⟨config, hc, named, rfl⟩ := saved_eq_ok h
  exact ⟨boundedName_of_boundedName named, Config.limit_pos_of_read hc⟩

private theorem StoredConfig.config_of_print {r : StoredConfig} {c : Config}
    (json : r.json = c.print) (positive : 0 < c.limit)
    (digits : digitCount c.limit ≤ maxIntegerDigits) : r.config = .ok c.current := by
  rw [config, json, Config.read_print c digits]
  exact Config.ofPayload_toValue c.current positive

/-- A row that holds a configuration under a good name is read back. -/
theorem StoredConfig.saved_of_print {r : StoredConfig} {c : Config} (json : r.json = c.print)
    (positive : 0 < c.limit) (digits : digitCount c.limit ≤ maxIntegerDigits)
    (named : boundedName r.name = .ok r.name) : r.saved =
      .ok ⟨r.id, r.name, r.description, r.object, r.createdBy, r.active, c.current⟩ := by
  rw [saved, config_of_print json positive digits, named]
  rfl

namespace Store

variable {s s' : Store}

theorem exists_row_of_find {id : Option Int} {r : StoredConfig} (h : s.find id = .ok (some r)) :
    r ∈ s.rows ∧ r.active = true := by
  cases id with
  | none => nomatch h
  | some id =>
    rw [find] at h
    split at h
    · have found : (s.rows.find? fun r ↦ r.active && (r.id : Int) == id) = some r :=
        Except.ok.inj h
      have passes := List.find?_some found
      exact ⟨List.mem_of_find?_eq_some found, (Bool.and_eq_true_iff.mp passes).1⟩
    · nomatch h

/-- A row that is found has an id that fits the key column. -/
theorem idFits_of_find {id : Option Int} {r : StoredConfig} (h : s.find id = .ok (some r)) :
    idFits r.id = true := by
  cases id with
  | none => nomatch h
  | some id =>
    rw [find] at h
    split at h
    · next fits =>
      have passes := List.find?_some (Except.ok.inj h)
      rwa [beq_iff_eq.mp (Bool.and_eq_true_iff.mp passes).2]
    · nomatch h

/-- Every row that is read has a good name, and its configuration a positive row limit. -/
theorem valid_of_get {id : Option Int} {entry : SavedConfig}
    (h : s.get id = .ok (some entry)) : entry.Valid := by
  unfold get at h
  split at h
  · nomatch h
  · nomatch h
  · next r _ =>
    cases hs : r.saved with
    | error f =>
      rw [hs] at h
      nomatch h
    | ok other =>
      rw [hs] at h
      cases h
      exact StoredConfig.valid_of_saved hs

/-! ### Checks -/

theorem checkText_eq_ok_iff {c : Config} :
    checkText c = .ok () ↔ digitCount c.limit ≤ maxIntegerDigits := by
  unfold checkText
  split
  · next long => exact iff_of_false nofun (Nat.not_le.mpr long)
  · next short => exact iff_of_true rfl (Nat.not_lt.mp short)

/-- A row is added for a configuration that passes the checks, if its row limit can be written and
an id is left. -/
theorem checkInsert_eq_ok_iff {n : NewConfig} : s.checkInsert n = .ok () ↔
    s.checkNew n = .ok () ∧ digitCount n.config.limit ≤ maxIntegerDigits ∧
      idFits s.nextId = true := by
  rw [← checkText_eq_ok_iff, checkInsert]
  cases s.checkNew n with
  | error e => exact iff_of_false nofun nofun
  | ok _ =>
    cases checkText n.config with
    | error f => exact iff_of_false nofun nofun
    | ok _ =>
      cases idFits s.nextId with
      | false => exact iff_of_false nofun nofun
      | true => exact iff_of_true rfl ⟨rfl, rfl, rfl⟩

/-- A row is written with a change that passes the checks, if its row limit can be written. -/
theorem checkUpdate_eq_ok_iff {r : StoredConfig} {change : ConfigChange} :
    s.checkUpdate r change = .ok () ↔ s.checkChange r change = .ok () ∧
      ∀ c ∈ change.config, digitCount c.limit ≤ maxIntegerDigits := by
  rw [checkUpdate]
  cases s.checkChange r change with
  | error e => exact iff_of_false nofun nofun
  | ok _ =>
    rw [and_iff_right rfl]
    rcases change with ⟨name, description, _ | c⟩
    · exact iff_of_true rfl fun c mem ↦ nomatch mem
    · refine (checkText_eq_ok_iff (c := c)).trans ⟨fun digits other mem ↦ ?_, fun all ↦ all c rfl⟩
      rw [← Option.some.inj mem]
      exact digits

/-! ### A new row -/

private theorem le_foldl_max (rows : List StoredConfig) (n : Nat) :
    n ≤ rows.foldl (fun n r ↦ max n r.id) n ∧
      ∀ r ∈ rows, r.id ≤ rows.foldl (fun n r ↦ max n r.id) n := by
  induction rows generalizing n with
  | nil => exact ⟨le_refl n, fun r hr ↦ nomatch hr⟩
  | cons row rest ih =>
    obtain ⟨first, others⟩ := ih (max n row.id)
    refine ⟨le_trans (le_max_left _ _) first, fun r hr ↦ ?_⟩
    rcases List.mem_cons.mp hr with rfl | hr
    · exact le_trans (le_max_right _ _) first
    · exact others r hr

/-- The next id is not given to any row yet. -/
theorem id_lt_nextId {r : StoredConfig} (h : r ∈ s.rows) : r.id < s.nextId :=
  Nat.lt_succ_of_le ((le_foldl_max s.rows 0).2 r h)

private theorem find_nextId {row : StoredConfig} (id : row.id = s.nextId) (active : row.active)
    (fits : idFits s.nextId = true) :
    (Store.mk (s.rows ++ [row])).find (some (s.nextId : Int)) = .ok (some row) := by
  have others : (s.rows.find? fun r ↦ r.active && (r.id : Int) == (s.nextId : Int)) = none := by
    refine List.find?_eq_none.mpr fun r hr passes ↦ ?_
    have same := Int.natCast_inj.mp (beq_iff_eq.mp (Bool.and_eq_true_iff.mp passes).2)
    exact absurd same (Nat.ne_of_lt (id_lt_nextId hr))
  rw [find, if_pos fits, List.find?_append, others]
  simp [active, id]

/-- A draft that passes the checks is saved as a new row under the next id. -/
theorem save_of_checked {c : Config} {name trimmed : String} {description : Option String}
    {id : Option Int} (new : id.getD 0 = 0) (named : boundedName name = .ok trimmed)
    (checked : s.checkNew ⟨trimmed, description, c, some NewConfig.system⟩ = .ok ())
    (positive : 0 < c.limit) (digits : digitCount c.limit ≤ maxIntegerDigits)
    (fits : idFits s.nextId = true) :
    s.save c (some name) description id = (.ok s.nextId,
      ⟨s.rows ++ [s.newRow ⟨trimmed, description, c, some NewConfig.system⟩]⟩) := by
  have built : newOf c (some name) description =
      .ok ⟨trimmed, description, c, some NewConfig.system⟩ := by
    rw [newOf, named]
    rfl
  rw [save, if_pos new, built]
  dsimp only
  rw [create, checkInsert_eq_ok_iff.mpr ⟨checked, digits, fits⟩]
  dsimp only
  rw [StoredConfig.saved_of_print (c := c) rfl positive digits (boundedName_of_boundedName named)]
  rfl

/-! ### A row that is replaced -/

private theorem find?_replaced {row : StoredConfig} (active : row.active) {rows : List StoredConfig}
    (some : ∃ r ∈ rows, r.id = row.id) :
    ((rows.map fun r ↦ if r.id = row.id then row else r).find?
      fun r ↦ r.active && (r.id : Int) == (row.id : Int)) = .some row := by
  induction rows with
  | nil =>
    obtain ⟨r, hr, -⟩ := some
    nomatch hr
  | cons first rest ih =>
    rw [List.map_cons]
    by_cases hf : first.id = row.id
    · rw [if_pos hf, List.find?_cons_of_pos (by simp [active])]
    · obtain ⟨r, hr, same⟩ := some
      have later : ∃ r ∈ rest, r.id = row.id := by
        rcases List.mem_cons.mp hr with rfl | hr
        · exact absurd same hf
        · exact ⟨r, hr, same⟩
      have other : (first.id : Int) ≠ row.id := fun h ↦ hf (Int.natCast_inj.mp h)
      rw [if_neg hf, List.find?_cons_of_neg (by simp [other])]
      exact ih later

private theorem find_replace {r row : StoredConfig} (hr : r ∈ s.rows) (id : row.id = r.id)
    (active : row.active) (fits : idFits r.id = true) :
    (s.replace r.id row).find (some (r.id : Int)) = .ok (some row) := by
  rw [find, if_pos fits, replace, ← id]
  exact congrArg Except.ok (find?_replaced active ⟨r, hr, id.symm⟩)

/-! ### Reading back -/

/-- An entry is found in a store, and it is what a configuration was saved as, whose row limit can
be written. -/
structure Keeps (s : Store) (c : Config) (name : String) (description : Option String)
    (entry : SavedConfig) : Prop where
  found : s.get (some (entry.id : Int)) = .ok (some entry)
  name : entry.name = Text.trim name
  description : entry.description = description
  config : entry.config = c.current
  digits : digitCount c.limit ≤ maxIntegerDigits

private theorem get_of_find {id : Option Int} {r : StoredConfig} {entry : SavedConfig}
    (find : s.find id = .ok (some r)) (saved : r.saved = .ok entry) :
    s.get id = .ok (some entry) := by
  rw [get, find]
  dsimp only
  rw [saved]
  rfl

variable {c : Config} {entry : SavedConfig}

private theorem keeps_of_row {r : StoredConfig} (json : r.json = c.print)
    (positive : 0 < c.limit) (digits : digitCount c.limit ≤ maxIntegerDigits)
    (saved : r.saved = .ok entry) (find : s.find (some (r.id : Int)) = .ok (some r)) :
    s.Keeps c r.name r.description entry := by
  have get := get_of_find find saved
  obtain ⟨config, hc, -, rfl⟩ := StoredConfig.saved_eq_ok saved
  rw [StoredConfig.config_of_print json positive digits] at hc
  exact ⟨get, rfl, rfl, (Except.ok.inj hc).symm, digits⟩

theorem keeps_of_create {n : NewConfig} (h : s.create n = (.ok entry, s'))
    (positive : 0 < n.config.limit) : s'.Keeps n.config n.name n.description entry := by
  unfold create at h
  split at h
  · nomatch h
  · next checked =>
    obtain ⟨saved, rfl⟩ := Prod.mk.inj h
    obtain ⟨-, digits, fits⟩ := checkInsert_eq_ok_iff.mp checked
    exact keeps_of_row (r := s.newRow n) rfl positive digits saved (find_nextId rfl rfl fits)

theorem keeps_of_update {id : Option Int} {name description : String}
    (h : s.update id ⟨some name, some description, some c⟩ = (.ok entry, s'))
    (positive : 0 < c.limit) : s'.Keeps c name (some description) entry := by
  unfold update at h
  split at h
  · nomatch h
  · nomatch h
  · next r hr =>
    split at h
    · nomatch h
    · next checked =>
      obtain ⟨saved, rfl⟩ := Prod.mk.inj h
      obtain ⟨mem, active⟩ := exists_row_of_find hr
      obtain ⟨-, digits⟩ := checkUpdate_eq_ok_iff.mp checked
      exact keeps_of_row (r := r.apply _) rfl positive (digits c rfl) saved
        (find_replace mem rfl active (idFits_of_find hr))

private theorem idOf_eq_ok {outcome : Except Failure SavedConfig × Store} {id : Nat}
    (h : idOf outcome = (.ok id, s')) : ∃ entry, outcome = (.ok entry, s') ∧ entry.id = id := by
  rcases outcome with ⟨(f | entry), t⟩
  · nomatch h
  · cases h
    exact ⟨entry, rfl, rfl⟩

private theorem newOf_eq_ok {name : String} {description : Option String} {n : NewConfig}
    (h : newOf c (some name) description = .ok n) :
    n = ⟨Text.trim name, description, c, some NewConfig.system⟩ := by
  obtain ⟨trimmed, hn, rfl⟩ := Schema.Check.map_eq_ok h
  rw [eq_trim_of_boundedName (Schema.Check.under_eq_ok hn)]

private theorem changeOf_eq_ok {name : String} {description : Option String}
    {change : ConfigChange} (h : changeOf c (some name) description = .ok change) :
    change = ⟨some (Text.trim name), description, some c⟩ := by
  obtain ⟨given, hn, rfl⟩ := Schema.Check.map_eq_ok h
  obtain ⟨trimmed, ht, rfl⟩ := Schema.Check.map_eq_ok (Schema.Check.under_eq_ok hn)
  rw [eq_trim_of_nonBlankName ht]

private theorem Keeps.of_trimmed {name : String} {description : Option String}
    (h : s.Keeps c (Text.trim name) description entry) : s.Keeps c name description entry :=
  ⟨h.found, h.name.trans (Text.trim_trim name), h.description, h.config, h.digits⟩

/-- What was saved is found under the id that was given for it. -/
theorem get_of_save {name description : String} {id : Option Int} {given : Nat}
    (h : s.save c (some name) (some description) id = (.ok given, s')) (positive : 0 < c.limit) :
    ∃ entry, entry.id = given ∧ s'.Keeps c name (some description) entry := by
  unfold save at h
  split at h
  · split at h
    · next n hn =>
      obtain ⟨entry, created, rfl⟩ := idOf_eq_ok h
      cases newOf_eq_ok hn
      exact ⟨entry, rfl, (keeps_of_create created positive).of_trimmed⟩
    · nomatch h
    · nomatch h
  · split at h
    · next change hn =>
      obtain ⟨entry, updated, rfl⟩ := idOf_eq_ok h
      cases changeOf_eq_ok hn
      exact ⟨entry, rfl, (keeps_of_update updated positive).of_trimmed⟩
    · nomatch h
    · nomatch h

end Store

end TableView
