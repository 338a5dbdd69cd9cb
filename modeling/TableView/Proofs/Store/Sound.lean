import TableView.Proofs.Store.Call

/-!
# What holds of every store

Whatever calls have been made of a store that was empty, those that failed among them, no id was
given twice, no two rows that are not deleted share a name, and every row has a good name and a text
that is read as a configuration of the current version. That configuration has the object that the
row has, a visible field, and a row limit that can be written (`sound_of_calls`).

A name is looked up among the rows before it is written, and that is all that keeps it unique: a row
that keeps its own name is not looked up, a new name must not be found under another id.
-/

namespace TableView

open Number

/-- A row as it is kept: its name is neither blank nor padded, and its text is read as a
configuration of the current version that has a visible field, the same object as the row, and a row
limit that can be written. -/
structure StoredConfig.Sound (r : StoredConfig) : Prop where
  shown : Text.isBlankText r.name = false
  trimmed : Text.trim r.name = r.name
  config : ∃ c, r.config = .ok c ∧ c.version = Config.currentVersion ∧ c.object = r.object ∧
    c.object ≠ "" ∧ c.anyVisible = true ∧ digitCount c.limit ≤ maxIntegerDigits

theorem StoredConfig.Sound.name_ne_empty {r : StoredConfig} (kept : r.Sound) : r.name ≠ "" := by
  intro blank
  have shown := kept.shown
  rw [blank] at shown
  nomatch shown

namespace Store

/-- A store as it is kept. A name is taken by at most one row that is not deleted. -/
structure Sound (s : Store) : Prop where
  ids : (s.rows.map StoredConfig.id).Nodup
  names : ∀ r ∈ s.rows, ∀ other ∈ s.rows, r.active = true → other.active = true →
    r.name = other.name → r = other
  rows : ∀ r ∈ s.rows, r.Sound

variable {s s' : Store}

/-! ### What passes the checks -/

theorem checkConfig_eq_ok_iff {c : Config} :
    checkConfig c = .ok () ↔ c.object ≠ "" ∧ c.anyVisible = true := by
  unfold checkConfig
  split
  · next none => exact iff_of_false nofun fun h ↦ h.1 none
  · next object =>
    rw [and_iff_right object]
    cases c.anyVisible with
    | false => exact iff_of_false nofun nofun
    | true => exact iff_of_true rfl rfl

private theorem both_eq_ok_iff {first next : Except Error Unit} :
    (first >>= fun _ ↦ next) = .ok () ↔ first = .ok () ∧ next = .ok () := by
  cases first with
  | error e => exact iff_of_false nofun nofun
  | ok _ => exact (and_iff_right rfl).symm

theorem checkNew_eq_ok_iff {n : NewConfig} : s.checkNew n = .ok () ↔
    checkConfig n.config = .ok () ∧ s.checkName n.name none = .ok () :=
  both_eq_ok_iff

theorem checkChange_eq_ok_iff {r : StoredConfig} {change : ConfigChange} :
    s.checkChange r change = .ok () ↔
      (∀ name ∈ change.name, name ≠ r.name → s.checkName name (some r.id) = .ok ()) ∧
        ∀ c ∈ change.config, checkConfig c = .ok () := by
  rw [checkChange]
  rcases change with ⟨_ | name, description, _ | c⟩
  · simp [pure, Except.pure]
  · simp
  · by_cases own : name = r.name
    · simp [own, pure, Except.pure]
    · simp [own]
  · by_cases own : name = r.name
    · simp [own]
    · simp [own, both_eq_ok_iff]

theorem Sound.findByName_of_row (sound : s.Sound) {r : StoredConfig} (mem : r ∈ s.rows)
    (active : r.active = true) : s.findByName r.name = some r := by
  cases found : s.findByName r.name with
  | none => exact absurd rfl (findByName_eq_none_iff.mp found r mem active)
  | some first =>
    obtain ⟨hfirst, kept, named⟩ := row_of_findByName found
    rw [sound.names first hfirst r mem kept active named]

theorem Sound.loadByName_of_row (sound : s.Sound) {r : StoredConfig} (mem : r ∈ s.rows)
    (active : r.active = true) : s.loadByName r.name = r.config := by
  rw [loadByName, sound.findByName_of_row mem active]

/-- A name that passes is the name of no other row that is not deleted. -/
theorem Sound.checkName_eq_ok_iff (sound : s.Sound) {name : String} {own : Option Nat} :
    s.checkName name own = .ok () ↔
      ∀ r ∈ s.rows, r.active = true → r.name = name → some r.id = own := by
  unfold checkName
  cases found : s.findByName name with
  | none =>
    have free := findByName_eq_none_iff.mp found
    exact iff_of_true rfl fun r mem active named ↦ absurd named (free r mem active)
  | some first =>
    obtain ⟨mem, active, rfl⟩ := row_of_findByName found
    dsimp only
    split
    · next kept =>
      refine iff_of_true rfl fun r hr other same ↦ ?_
      rw [sound.names r hr first mem other active same, kept]
    · next taken => exact iff_of_false nofun fun all ↦ taken (all first mem active rfl)

theorem checkName_eq_error {name : String} {own : Option Nat}
    (taken : s.checkName name own ≠ .ok ()) : s.checkName name own = .error (.nameTaken name) := by
  unfold checkName at taken ⊢
  cases found : s.findByName name with
  | none =>
    rw [found] at taken
    exact absurd rfl taken
  | some r =>
    rw [found] at taken
    by_cases kept : some r.id = own
    · exact absurd (if_pos kept) taken
    · exact if_neg kept

/-- A row that is changed has a name that no other row has, if the other is not deleted. -/
theorem Sound.name_of_checkChange (sound : s.Sound) {r other : StoredConfig}
    {change : ConfigChange} (checked : s.checkChange r change = .ok ()) (mem : r ∈ s.rows)
    (active : r.active = true) (hother : other ∈ s.rows) (kept : other.active = true)
    (same : other.name = (r.apply change).name) : other.id = r.id := by
  obtain ⟨named, -⟩ := checkChange_eq_ok_iff.mp checked
  -- A name that the row has already is not looked up, so it has to be unique before the change.
  by_cases own : other.name = r.name
  · rw [sound.names other hother r mem kept active own]
  · cases given : change.name with
    | none =>
      rw [StoredConfig.apply, given] at same
      exact absurd same own
    | some name =>
      rw [StoredConfig.apply, given] at same
      have same : other.name = name := same
      have passes := named name given (same ▸ own)
      exact Option.some.inj (sound.checkName_eq_ok_iff.mp passes other hother kept same)

/-! ### Rows that are written -/

private theorem sound_newRow {n : NewConfig} (valid : n.Valid)
    (checked : checkConfig n.config = .ok ())
    (digits : digitCount n.config.limit ≤ maxIntegerDigits) : (s.newRow n).Sound := by
  obtain ⟨shown, trimmed⟩ := nonBlankName_eq_self_iff.mp (boundedName_eq_self_iff.mp valid.name).1
  obtain ⟨object, visible⟩ := checkConfig_eq_ok_iff.mp checked
  have read := Config.read_print_current n.config valid.limit digits
  exact ⟨shown, trimmed, n.config.current, read, rfl, rfl, object, visible, digits⟩

/-- A row that is kept is still such a row after a change that passes the checks. -/
theorem Sound.apply_of_checkUpdate (sound : s.Sound) {r : StoredConfig} {change : ConfigChange}
    (mem : r ∈ s.rows) (valid : change.Valid) (checked : s.checkUpdate r change = .ok ()) :
    (r.apply change).Sound := by
  obtain ⟨passes, digits⟩ := checkUpdate_eq_ok_iff.mp checked
  have kept := sound.rows r mem
  have named : nonBlankName (r.apply change).name = .ok (r.apply change).name := by
    rcases change with ⟨_ | name, description, config⟩
    · exact nonBlankName_eq_self_iff.mpr ⟨kept.shown, kept.trimmed⟩
    · exact valid.name name rfl
  obtain ⟨shown, trimmed⟩ := nonBlankName_eq_self_iff.mp named
  refine ⟨shown, trimmed, ?_⟩
  rcases change with ⟨name, description, _ | c⟩
  · exact kept.config
  · obtain ⟨object, visible⟩ := checkConfig_eq_ok_iff.mp ((checkChange_eq_ok_iff.mp passes).2 c rfl)
    have read := Config.read_print_current c (valid.limit c rfl) (digits c rfl)
    exact ⟨c.current, read, rfl, rfl, object, visible, digits c rfl⟩

/-! ### Calls -/

theorem sound_empty : empty.Sound :=
  ⟨List.nodup_nil, nofun, nofun⟩

private theorem Sound.added (sound : s.Sound) {n : NewConfig} (valid : n.Valid)
    (checked : s.checkInsert n = .ok ()) : (Store.mk (s.rows ++ [s.newRow n])).Sound := by
  obtain ⟨passes, digits, -⟩ := checkInsert_eq_ok_iff.mp checked
  obtain ⟨config, name⟩ := checkNew_eq_ok_iff.mp passes
  have free (r : StoredConfig) (mem : r ∈ s.rows) (active : r.active = true) : r.name ≠ n.name :=
    fun same ↦ nomatch sound.checkName_eq_ok_iff.mp name r mem active same
  refine ⟨?_, fun r hr other hother active kept same ↦ ?_, fun r hr ↦ ?_⟩
  · rw [List.map_append, List.nodup_append]
    refine ⟨sound.ids, List.pairwise_singleton _ _, fun id old last new ↦ ?_⟩
    obtain ⟨r, mem, rfl⟩ := List.mem_map.mp old
    rw [List.mem_singleton.mp new]
    exact Nat.ne_of_lt (id_lt_nextId mem)
  · rcases List.mem_append.mp hr with old | new
    · rcases List.mem_append.mp hother with old' | new'
      · exact sound.names r old other old' active kept same
      · rw [List.mem_singleton.mp new'] at same
        exact absurd same (free r old active)
    · rcases List.mem_append.mp hother with old' | new'
      · rw [List.mem_singleton.mp new] at same
        exact absurd same.symm (free other old' kept)
      · rw [List.mem_singleton.mp new, List.mem_singleton.mp new']
  · rcases List.mem_append.mp hr with hr | hr
    · exact sound.rows r hr
    · rw [List.mem_singleton.mp hr]
      exact sound_newRow valid config digits

/-- A row may be replaced by a row that has the same id, unless it takes the name of another one. -/
private theorem Sound.replace (sound : s.Sound) {r row : StoredConfig} (id : row.id = r.id)
    (kept : row.Sound) (free : row.active = true → ∀ other ∈ s.rows, other.active = true →
      other.name = row.name → other.id = r.id) : (s.replace r.id row).Sound := by
  refine ⟨?_, fun a ha b hb active active' same ↦ ?_, fun a ha ↦ ?_⟩
  · rw [ids_replace id]
    exact sound.ids
  · rcases mem_replace ha with ⟨old, apart⟩ | rfl
    · rcases mem_replace hb with ⟨old', apart'⟩ | rfl
      · exact sound.names a old b old' active active' same
      · exact absurd (free active' a old active same) apart
    · rcases mem_replace hb with ⟨old', apart'⟩ | rfl
      · exact absurd (free active b old' active' same.symm) apart'
      · rfl
  · rcases mem_replace ha with ⟨old, -⟩ | rfl
    · exact sound.rows a old
    · exact kept

theorem Sound.of_effect (sound : s.Sound) (effect : s.Effect s') : s'.Sound := by
  cases effect with
  | kept => exact sound
  | added n valid checked => exact sound.added valid checked
  | changed r change valid mem active checked =>
    have passes := (checkUpdate_eq_ok_iff.mp checked).1
    exact sound.replace rfl (sound.apply_of_checkUpdate mem valid checked)
      fun _ other hother kept same ↦ sound.name_of_checkChange passes mem active hother kept same
  | deleted r mem active =>
    have row := sound.rows r mem
    exact sound.replace rfl ⟨row.shown, row.trimmed, row.config⟩ nofun

theorem Sound.after (sound : s.Sound) {calls : List Call} (valid : ∀ call ∈ calls, call.Valid) :
    (s.after calls).Sound :=
  after_invariant (fun _ _ sound effect ↦ sound.of_effect effect) valid sound

/-- Whatever calls are made of an empty store, what is kept of it holds afterwards. -/
theorem sound_of_calls {calls : List Call} (valid : ∀ call ∈ calls, call.Valid) :
    (empty.after calls).Sound :=
  sound_empty.after valid

/-- A name that was taken is free again after its row was deleted, and the row that has it then is
saved over. -/
theorem sound_of_mixedCalls : (∀ call ∈ mixedCalls, call.Valid) ∧
    (empty.after mixedCalls.dropLast).rows.map
        (fun r ↦ (r.id, r.name, r.description, r.object, r.active)) =
      [(1, "Accounts", some "All of them", "Account", false),
        (2, "Accounts", some "Saved over", "Contact", true)] ∧
    (empty.after mixedCalls).Sound := by
  have valid : ∀ call ∈ mixedCalls, call.Valid := by decide +kernel
  have given : (some (2 : Int)).getD 0 ≠ 0 := by decide
  have built : changeOf (single "Contact" 9) (some " Accounts ") (some "Saved over") =
      .ok ⟨some "Accounts", some "Saved over", some (single "Contact" 9)⟩ := by
    decide +kernel
  have calls : mixedCalls.dropLast = mixedCalls.dropLast.dropLast ++
      [.save (single "Contact" 9) (some " Accounts ") (some "Saved over") (some 2)] := rfl
  rw [calls, after_concat, perform_save_of_given given built]
  exact ⟨valid, by decide +kernel, sound_of_calls valid⟩

end Store

end TableView
