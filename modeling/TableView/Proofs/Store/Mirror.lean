import Mathlib.Data.List.Nodup
import Mathlib.Data.String.Basic
import TableView.Proofs.Store.Catalog
import TableView.Proofs.Store.Sound

/-!
# Stores that behave as catalogs

A store represents a catalog if its rows that are not deleted hold the entries of the catalog, each
as a text of its own, and the next id is the same. Every call has the same answer in both and leaves
a store that represents the catalog that is left, as long as no name is given that is too long to be
read back. So whatever calls were made, a store shows exactly what its catalog has
(`mirrors_of_calls`).
-/

namespace TableView

open Store Number

/-- A row that is read back as an entry. -/
structure StoredConfig.Holds (r : StoredConfig) (e : Catalog.Entry) : Prop where
  name : r.name = e.name
  description : r.description = e.description
  object : r.object = e.config.object
  createdBy : r.createdBy = e.createdBy
  config : r.config = .ok e.config
  bounded : boundedName r.name = .ok r.name

theorem StoredConfig.Holds.saved {r : StoredConfig} {e : Catalog.Entry} (h : r.Holds e)
    (active : r.active = true) : r.saved = .ok (e.saved r.id) := by
  rw [StoredConfig.saved, h.config, h.bounded, Catalog.Entry.saved, ← h.name, ← h.description,
    ← h.object, ← h.createdBy, ← active]
  rfl

theorem StoredConfig.Holds.summary {r : StoredConfig} {e : Catalog.Entry} (h : r.Holds e) :
    r.summary = e.summary r.id := by
  rw [StoredConfig.summary, Catalog.Entry.summary, ← h.name, ← h.object]

namespace Store

/-- The names that a call gives are not too long when they are trimmed; the name of a new
configuration is bounded anyway. -/
def Call.Short : Call → Prop
  | create _ => True
  | update _ change => ∀ name ∈ change.name, name.length ≤ maxNameLength
  | save _ name _ _ => ∀ given ∈ name, (Text.trim given).length ≤ maxNameLength
  | delete _ => True

instance : (call : Call) → Decidable call.Short
  | .create _ => inferInstanceAs (Decidable True)
  | .update _ change => inferInstanceAs (Decidable (∀ name ∈ change.name, _))
  | .save _ name _ _ => inferInstanceAs (Decidable (∀ given ∈ name, _))
  | .delete _ => inferInstanceAs (Decidable True)

/-- A store represents a catalog: the rows that are not deleted hold its entries. -/
structure Represents (s : Store) (m : Catalog) : Prop where
  sound : s.Sound
  next : s.nextId = m.given + 1
  row : ∀ r ∈ s.rows, r.active = true → ∃ e, m.entry r.id = some e ∧ r.Holds e
  entry : ∀ id e, m.entry id = some e → ∃ r ∈ s.rows, r.active = true ∧ r.id = id

variable {s : Store} {m : Catalog}

/-! ### Ids of rows -/

theorem nextId_eq (s : Store) : s.nextId = (s.rows.map StoredConfig.id).foldl max 0 + 1 := by
  rw [List.foldl_map, nextId]

theorem nextId_append {row : StoredConfig} (new : row.id = s.nextId) :
    (Store.mk (s.rows ++ [row])).nextId = s.nextId + 1 := by
  rw [nextId_eq, List.map_append, List.foldl_append]
  change max ((s.rows.map StoredConfig.id).foldl max 0) row.id + 1 = s.nextId + 1
  rw [new, nextId_eq, Nat.max_eq_right (Nat.le_succ _)]

theorem nextId_replace {id : Nat} {row : StoredConfig} (same : row.id = id) :
    (s.replace id row).nextId = s.nextId := by
  rw [nextId_eq, ids_replace same, ← nextId_eq]

theorem mem_replace_of_ne {id : Nat} {row r : StoredConfig} (mem : r ∈ s.rows) (apart : r.id ≠ id) :
    r ∈ (s.replace id row).rows :=
  List.mem_map.mpr ⟨r, mem, if_neg apart⟩

theorem mem_replace_self {row r : StoredConfig} (mem : r ∈ s.rows) :
    row ∈ (s.replace r.id row).rows :=
  List.mem_map.mpr ⟨r, mem, if_pos rfl⟩

namespace Represents

theorem row_of_entry (h : s.Represents m) {id : Nat} {e : Catalog.Entry}
    (found : m.entry id = some e) :
    ∃ r ∈ s.rows, r.active = true ∧ r.id = id ∧ r.Holds e := by
  obtain ⟨r, mem, active, rfl⟩ := h.entry id e found
  obtain ⟨other, hother, holds⟩ := h.row r mem active
  cases Option.some.inj (found.symm.trans hother)
  exact ⟨r, mem, active, rfl, holds⟩

theorem id_le (h : s.Represents m) {r : StoredConfig} (mem : r ∈ s.rows) : r.id ≤ m.given :=
  Nat.lt_succ_iff.mp ((id_lt_nextId mem).trans_eq h.next)

theorem entry_le (h : s.Represents m) {id : Nat} {e : Catalog.Entry}
    (found : m.entry id = some e) : id ≤ m.given := by
  obtain ⟨r, mem, -, rfl⟩ := h.entry id e found
  exact h.id_le mem

/-! ### Checks -/

theorem checkName (h : s.Represents m) (name : String) (own : Option Nat) :
    s.checkName name own = m.checkName name own := by
  have passes : s.checkName name own = .ok () ↔
      ∀ id ≤ m.given, ∀ e ∈ m.entry id, e.name = name → some id = own := by
    rw [h.sound.checkName_eq_ok_iff]
    refine ⟨fun all id _ e found named ↦ ?_, fun all r mem active named ↦ ?_⟩
    · obtain ⟨r, mem, active, rfl, holds⟩ := h.row_of_entry found
      exact all r mem active (holds.name.trans named)
    · obtain ⟨e, found, holds⟩ := h.row r mem active
      exact all r.id (h.id_le mem) e found (holds.name.symm.trans named)
  unfold Catalog.checkName
  split
  · next free => exact passes.mpr free
  · next taken => exact checkName_eq_error fun free ↦ taken (passes.mp free)

theorem checkInsert (h : s.Represents m) (n : NewConfig) : s.checkInsert n = m.checkInsert n := by
  have checked : (s.checkNew n).mapError Failure.engine = (do
      (checkConfig n.config).mapError .engine
      (m.checkName n.name none).mapError .engine) := by
    rw [checkNew, h.checkName]
    cases checkConfig n.config with
    | error e => rfl
    | ok _ => rfl
  rw [Store.checkInsert, Catalog.checkInsert, h.next, checked, bind_assoc]

/-- A row keeps its own name without a look-up, which would have found no other row. -/
theorem checkUpdate (h : s.Represents m) {r : StoredConfig} (mem : r ∈ s.rows)
    (active : r.active = true) (change : ConfigChange) :
    s.checkUpdate r change = m.checkUpdate r.id change := by
  have own : s.checkName r.name (some r.id) = .ok () :=
    h.sound.checkName_eq_ok_iff.mpr fun other hother kept same ↦
      congrArg (some ∘ StoredConfig.id) (h.sound.names other hother r mem kept active same)
  have named (name : String) : (if name ≠ r.name then s.checkName name (some r.id) else .ok ()) =
      m.checkName name (some r.id) := by
    rw [← h.checkName]
    split
    · rfl
    · next same => rw [not_not.mp same, own]
  rw [Store.checkUpdate, Catalog.checkUpdate, checkChange]
  rcases change with ⟨_ | name, description, config⟩
  · cases config with
    | none => rfl
    | some c => rfl
  · dsimp only
    rw [← named]
    split
    · cases s.checkName name (some r.id) with
      | error e => cases config <;> rfl
      | ok _ => cases config <;> rfl
    · cases config <;> rfl

/-! ### Looking up -/

/-- An id is found in the rows as it is in the catalog. -/
theorem find_cases (h : s.Represents m) (id : Option Int) :
    (∃ f, s.find id = .error f ∧ m.find id = .error f) ∨
    (s.find id = .ok none ∧ m.find id = .ok none) ∨
    ∃ r ∈ s.rows, ∃ e, r.active = true ∧ r.Holds e ∧
      s.find id = .ok (some r) ∧ m.find id = .ok (some (r.id, e)) := by
  rcases id with _ | id
  · exact .inr (.inl ⟨rfl, rfl⟩)
  · unfold Store.find Catalog.find
    dsimp only
    split
    · cases found : s.rows.find? fun r ↦ r.active && (r.id : Int) == id with
      | none =>
        refine .inr (.inl ⟨rfl, ?_⟩)
        -- Nothing is saved under a negative id.
        cases id with
        | negSucc id => rfl
        | ofNat id =>
          have absent : m.entry id = none := by
            refine Option.eq_none_iff_forall_ne_some.mpr fun e entry ↦ ?_
            obtain ⟨r, mem, active, rfl⟩ := h.entry id e entry
            have passes := List.find?_eq_none.mp found r mem
            rw [active] at passes
            exact passes (beq_self_eq_true _)
          dsimp only
          rw [absent]
          rfl
      | some r =>
        obtain ⟨active, same⟩ := Bool.and_eq_true_iff.mp
          (List.find?_some (p := fun r : StoredConfig ↦ r.active && (r.id : Int) == id) found)
        have mem := List.mem_of_find?_eq_some found
        obtain ⟨e, entry, holds⟩ := h.row r mem active
        refine .inr (.inr ⟨r, mem, e, active, holds, rfl, ?_⟩)
        rw [← beq_iff_eq.mp same]
        exact congrArg (Except.ok ∘ Option.map (r.id, ·)) entry
    · exact .inl ⟨idOverflow, rfl, rfl⟩

/-! ### Rows that are written -/

private theorem holds_newRow {n : NewConfig} (valid : n.Valid)
    (checked : s.checkInsert n = .ok ()) : (s.newRow n).Holds (.ofNew n) := by
  have digits := (checkInsert_eq_ok_iff.mp checked).2.1
  exact ⟨rfl, rfl, rfl, rfl, Config.read_print_current n.config valid.limit digits, valid.name⟩

private theorem holds_apply {r : StoredConfig} {e : Catalog.Entry} (holds : r.Holds e)
    {change : ConfigChange} (valid : change.Valid)
    (short : ∀ name ∈ change.name, name.length ≤ maxNameLength)
    (checked : s.checkUpdate r change = .ok ()) : (r.apply change).Holds (e.apply change) := by
  have digits := (checkUpdate_eq_ok_iff.mp checked).2
  rcases change with ⟨name, description, config⟩
  refine ⟨congrArg name.getD holds.name, congrArg description.or holds.description, ?_,
    holds.createdBy, ?_, ?_⟩
  · cases config with
    | none => exact holds.object
    | some c => rfl
  · cases config with
    | none => exact holds.config
    | some c => exact Config.read_print_current c (valid.limit c rfl) (digits c rfl)
  · cases name with
    | none => exact holds.bounded
    | some name => exact boundedName_eq_self_iff.mpr ⟨valid.name name rfl, short name rfl⟩

/-- The name of a draft is stored trimmed. -/
private theorem short_of_changeOf {c : Config} {name description : Option String}
    {change : ConfigChange} (built : changeOf c name description = .ok change)
    (short : ∀ given ∈ name, (Text.trim given).length ≤ maxNameLength) :
    ∀ trimmed ∈ change.name, trimmed.length ≤ maxNameLength := by
  obtain ⟨stored, hn, rfl⟩ := Schema.Check.map_eq_ok built
  have checked := Schema.Check.under_eq_ok hn
  rintro trimmed rfl
  cases name with
  | none => nomatch checked
  | some given =>
    obtain ⟨shown, hs, same⟩ := Schema.Check.map_eq_ok checked
    cases same
    rw [eq_trim_of_nonBlankName hs]
    exact short given rfl

private theorem add (h : s.Represents m) {row : StoredConfig} {e : Catalog.Entry}
    (sound : (Store.mk (s.rows ++ [row])).Sound) (new : row.id = s.nextId)
    (active : row.active = true) (holds : row.Holds e) :
    (Store.mk (s.rows ++ [row])).Represents (m.add e) := by
  refine ⟨sound, ?_, fun r mem kept ↦ ?_, fun id other found ↦ ?_⟩
  · rw [nextId_append new, h.next]
    rfl
  · rcases List.mem_append.mp mem with old | last
    · have apart : r.id ≠ m.given + 1 := Nat.ne_of_lt (Nat.lt_succ_of_le (h.id_le old))
      rw [m.entry_add_of_ne apart]
      exact h.row r old kept
    · rw [List.mem_singleton.mp last, new, h.next, m.entry_add_self]
      exact ⟨e, rfl, holds⟩
  · by_cases last : id = m.given + 1
    · exact ⟨row, List.mem_append_right _ (List.mem_singleton_self row), active,
        new.trans (h.next.trans last.symm)⟩
    · rw [m.entry_add_of_ne last] at found
      obtain ⟨r, mem, kept, same⟩ := h.entry id other found
      exact ⟨r, List.mem_append_left _ mem, kept, same⟩

/-- A row is replaced by one that holds an entry or is marked as deleted. -/
private theorem put (h : s.Represents m) {r row : StoredConfig} {e : Option Catalog.Entry}
    (mem : r ∈ s.rows) (sound : (s.replace r.id row).Sound) (id : row.id = r.id)
    (holds : row.active = true → ∃ other, e = some other ∧ row.Holds other)
    (active : e ≠ none → row.active = true) :
    (s.replace r.id row).Represents (m.put r.id e) := by
  refine ⟨sound, (nextId_replace id).trans h.next, fun a ha kept ↦ ?_, fun key other found ↦ ?_⟩
  · rcases mem_replace ha with ⟨old, apart⟩ | rfl
    · rw [m.entry_put_of_ne apart]
      exact h.row a old kept
    · rw [id, m.entry_put_self]
      exact holds kept
  · by_cases here : key = r.id
    · rw [here, m.entry_put_self] at found
      exact ⟨row, mem_replace_self mem, active (found ▸ Option.some_ne_none other),
        id.trans here.symm⟩
    · rw [m.entry_put_of_ne here] at found
      obtain ⟨a, ha, kept, rfl⟩ := h.entry key other found
      exact ⟨a, mem_replace_of_ne ha here, kept, rfl⟩

/-! ### Calls -/

end Represents

/-- A call has the same answer in a store and in a catalog, and what is left of the store represents
what is left of the catalog. -/
structure SameOutcome {α : Type} (outcome : Except Failure α × Store)
    (expected : Except Failure α × Catalog) : Prop where
  answer : outcome.1 = expected.1
  represents : outcome.2.Represents expected.2

theorem SameOutcome.answering {α : Type} {outcome : Except Failure α × Store}
    {expected : Except Failure α × Catalog} (h : SameOutcome outcome expected)
    (answer : α → Answer) :
    SameOutcome (Store.answering answer outcome) (Store.answering answer expected) :=
  ⟨congrArg (Except.map answer) h.answer, h.represents⟩

namespace Represents

theorem create (h : s.Represents m) {n : NewConfig} (valid : n.Valid) :
    SameOutcome (s.create n) (m.create n) := by
  rw [Store.create, Catalog.create, ← h.checkInsert]
  cases checked : s.checkInsert n with
  | error f => exact ⟨rfl, h⟩
  | ok _ =>
    have holds := holds_newRow valid checked
    have sound := h.sound.of_effect (.added n valid checked)
    refine ⟨?_, h.add sound rfl rfl holds⟩
    dsimp only
    rw [holds.saved rfl, ← h.next]
    rfl

theorem update (h : s.Represents m) {change : ConfigChange} (valid : change.Valid)
    (short : ∀ name ∈ change.name, name.length ≤ maxNameLength) (id : Option Int) :
    SameOutcome (s.update id change) (m.update id change) := by
  rw [Store.update, Catalog.update]
  rcases h.find_cases id with ⟨f, here, there⟩ | ⟨here, there⟩ |
    ⟨r, mem, e, active, holds, here, there⟩
  · rw [here, there]
    exact ⟨rfl, h⟩
  · rw [here, there]
    exact ⟨rfl, h⟩
  · rw [here, there]
    dsimp only
    rw [← h.checkUpdate mem active]
    cases checked : s.checkUpdate r change with
    | error f => exact ⟨rfl, h⟩
    | ok _ =>
      have written := holds_apply holds valid short checked
      have sound := h.sound.of_effect (.changed r change valid mem active checked)
      exact ⟨written.saved active,
        h.put mem sound rfl (fun _ ↦ ⟨_, rfl, written⟩) fun _ ↦ active⟩

theorem delete (h : s.Represents m) (id : Option Int) :
    SameOutcome (s.delete id) (m.delete id) := by
  rw [Store.delete, Catalog.delete]
  rcases h.find_cases id with ⟨f, here, there⟩ | ⟨here, there⟩ |
    ⟨r, mem, e, active, holds, here, there⟩
  · rw [here, there]
    exact ⟨rfl, h⟩
  · rw [here, there]
    exact ⟨rfl, h⟩
  · rw [here, there]
    have sound := h.sound.of_effect (.deleted r mem active)
    exact ⟨rfl, h.put mem sound rfl (fun active ↦ Bool.noConfusion active) (absurd rfl)⟩

private theorem saveNew (h : s.Represents m) {c : Config} (positive : 0 < c.limit)
    (name description : Option String) {id : Option Int} (new : id.getD 0 = 0) :
    SameOutcome (s.perform (.save c name description id))
      (Store.answering (fun entry ↦ .id entry.id) (m.saveNew c name description)) := by
  have refused {faults : List Schema.Fault} (built : newOf c name description = .rejected faults) :
      SameOutcome (s.perform (.save c name description id)) (.error (.schema faults), m) := by
    rw [Store.perform, Store.save, if_pos new, built]
    exact ⟨rfl, h⟩
  unfold Catalog.saveNew
  cases name with
  | none => exact refused rfl
  | some given =>
    dsimp only
    split
    · next blank => exact refused (by rw [newOf, boundedName, if_pos blank]; rfl)
    · next shown =>
      split
      · next long => exact refused (by rw [newOf, boundedName, if_neg shown, if_pos long]; rfl)
      · next bounded =>
        have built : newOf c (some given) description =
            .ok ⟨Text.trim given, description, c, some NewConfig.system⟩ := by
          rw [newOf, boundedName, if_neg shown, if_neg bounded]
          rfl
        rw [perform_save_of_new new built]
        exact (h.create (valid_of_newOf built positive)).answering _

private theorem saveOver (h : s.Represents m) {c : Config} (positive : 0 < c.limit)
    {name : Option String} (short : ∀ given ∈ name, (Text.trim given).length ≤ maxNameLength)
    (description : Option String) {id : Option Int} (given : id.getD 0 ≠ 0) :
    SameOutcome (s.perform (.save c name description id))
      (Store.answering (fun entry ↦ .id entry.id) (m.saveOver c name description id)) := by
  have changed {change : ConfigChange} (built : changeOf c name description = .ok change) :
      SameOutcome (s.perform (.save c name description id))
        (Store.answering (fun entry ↦ .id entry.id) (m.update id change)) := by
    rw [perform_save_of_given given built]
    have trimmed := short_of_changeOf built short
    exact (h.update (valid_of_changeOf built positive) trimmed id).answering _
  unfold Catalog.saveOver
  cases name with
  | none => exact changed rfl
  | some name =>
    dsimp only
    split
    · next blank =>
      have built : changeOf c (some name) description =
          .rejected [⟨[.key "name"], Catalog.blankName⟩] := by
        rw [changeOf, nonBlankName, if_pos blank]
        rfl
      rw [Store.perform, Store.save, if_neg given, built]
      exact ⟨rfl, h⟩
    · next shown => exact changed (by rw [changeOf, nonBlankName, if_neg shown]; rfl)

theorem save (h : s.Represents m) {c : Config} (positive : 0 < c.limit)
    {name : Option String} (short : ∀ given ∈ name, (Text.trim given).length ≤ maxNameLength)
    (description : Option String) (id : Option Int) :
    SameOutcome (s.perform (.save c name description id))
      (m.perform (.save c name description id)) := by
  rw [Catalog.perform, Catalog.save]
  split
  · next new => exact h.saveNew positive name description new
  · next given => exact h.saveOver positive short description given

theorem perform (h : s.Represents m) {call : Call} (valid : call.Valid) (short : call.Short) :
    SameOutcome (s.perform call) (m.perform call) := by
  cases call with
  | create n => exact (h.create valid).answering .saved
  | update id change => exact (h.update valid short id).answering .saved
  | save c name description id => exact h.save valid short description id
  | delete id => exact (h.delete id).answering .deleted

theorem after (h : s.Represents m) {calls : List Call} (valid : ∀ call ∈ calls, call.Valid)
    (short : ∀ call ∈ calls, call.Short) : (s.after calls).Represents (m.after calls) := by
  induction calls generalizing s m with
  | nil => exact h
  | cons call rest ih =>
    obtain ⟨valid, valid'⟩ := List.forall_mem_cons.mp valid
    obtain ⟨short, short'⟩ := List.forall_mem_cons.mp short
    exact ih (h.perform valid short).represents valid' short'

end Represents

theorem represents_empty : empty.Represents Catalog.empty :=
  ⟨sound_empty, rfl, fun _ mem ↦ absurd mem List.not_mem_nil,
    fun _ e found ↦ absurd found.symm (Option.some_ne_none e)⟩

/-! ### What a store shows -/

/-- A store shows what a catalog has: its entries under their ids and under their names, and all of
them in the order of their names. It answers every call as the catalog does. -/
structure Mirrors (s : Store) (m : Catalog) : Prop where
  get : ∀ id, s.get id = m.get id
  load : ∀ id, s.load id = m.load id
  named : ∀ id e, m.entry id = some e → s.loadByName e.name = .ok e.config
  unnamed : ∀ name, (∀ id e, m.entry id = some e → e.name ≠ name) →
    s.loadByName name = .error (.engine (.configNameNotFound name))
  list : ∀ row, row ∈ s.list ↔ ∃ id e, m.entry id = some e ∧ row = e.summary id
  sorted : s.list.Pairwise fun a b ↦ a.name < b.name
  answer : ∀ call, call.Valid → call.Short → (s.perform call).1 = (m.perform call).1
  given : ∀ id e, m.entry id = some e → id ≤ m.given

private theorem sorted_rows (rows : List StoredConfig) :
    (rows.mergeSort fun a b ↦ a.name ≤ b.name).Pairwise fun a b ↦ a.name ≤ b.name := by
  have ordered : (rows.mergeSort fun a b ↦ a.name ≤ b.name).Pairwise fun a b ↦
      decide (a.name ≤ b.name) = true :=
    List.pairwise_mergeSort
      (fun a b c hab hbc ↦ decide_eq_true ((of_decide_eq_true hab).trans (of_decide_eq_true hbc)))
      (fun a b ↦ by simpa using le_total a.name b.name) rows
  exact ordered.imp of_decide_eq_true

/-- Rows that are not deleted are listed in the order of their names, which all differ. -/
private theorem sorted_list (sound : s.Sound) : s.list.Pairwise fun a b ↦ a.name < b.name := by
  have apart : s.rows.Pairwise fun a b ↦ a.id ≠ b.id := List.pairwise_map.mp sound.ids
  have distinct : (s.rows.filter StoredConfig.active).Pairwise fun a b ↦ a.name ≠ b.name := by
    refine (apart.filter StoredConfig.active).imp_of_mem fun {a b} ha hb other same ↦ ?_
    obtain ⟨ha, active⟩ := List.mem_filter.mp ha
    obtain ⟨hb, active'⟩ := List.mem_filter.mp hb
    exact other (congrArg StoredConfig.id (sound.names a ha b hb active active' same))
  have ordered := sorted_rows (s.rows.filter StoredConfig.active)
  have strict := ordered.and (((List.mergeSort_perm _ _).pairwise_iff Ne.symm).mpr distinct)
  exact List.pairwise_map.mpr (strict.imp fun h ↦ lt_of_le_of_ne h.1 h.2)

theorem Represents.mirrors (h : s.Represents m) : s.Mirrors m where
  get id := by
    rw [get, Catalog.get]
    rcases h.find_cases id with ⟨f, here, there⟩ | ⟨here, there⟩ |
      ⟨r, mem, e, active, holds, here, there⟩
    · rw [here, there]
      rfl
    · rw [here, there]
      rfl
    · rw [here, there]
      dsimp only
      rw [holds.saved active]
      rfl
  load id := by
    rw [load, Catalog.load]
    rcases h.find_cases id with ⟨f, here, there⟩ | ⟨here, there⟩ |
      ⟨r, mem, e, active, holds, here, there⟩
    · rw [here, there]
    · rw [here, there]
    · rw [here, there]
      exact holds.config
  named id e found := by
    obtain ⟨r, mem, active, rfl, holds⟩ := h.row_of_entry found
    rw [loadByName, ← holds.name, h.sound.findByName_of_row mem active]
    exact holds.config
  unnamed name absent := by
    have free : s.findByName name = none := findByName_eq_none_iff.mpr fun r mem active named ↦ by
      obtain ⟨e, found, holds⟩ := h.row r mem active
      exact absent r.id e found (holds.name.symm.trans named)
    rw [loadByName, free]
  list row := by
    rw [list, List.mem_map]
    constructor
    · rintro ⟨r, hr, same⟩
      obtain ⟨mem, active⟩ := List.mem_filter.mp (List.mem_mergeSort.mp hr)
      obtain ⟨e, found, holds⟩ := h.row r mem active
      exact ⟨r.id, e, found, same.symm.trans holds.summary⟩
    · rintro ⟨id, e, found, same⟩
      obtain ⟨r, mem, active, rfl, holds⟩ := h.row_of_entry found
      exact ⟨r, List.mem_mergeSort.mpr (List.mem_filter.mpr ⟨mem, active⟩),
        holds.summary.trans same.symm⟩
  sorted := sorted_list h.sound
  answer call valid short := (h.perform valid short).answer
  given id e found := h.entry_le found

/-- Whatever calls are made, a store behaves as the catalog of which the same calls were made, as
long as no name is too long; and an entry that was deleted never comes back. -/
theorem mirrors_of_calls {calls : List Call} (valid : ∀ call ∈ calls, call.Valid)
    (short : ∀ call ∈ calls, call.Short) :
    (empty.after calls).Mirrors (Catalog.empty.after calls) ∧
    ∀ more id, id ≤ (Catalog.empty.after calls).given →
      (Catalog.empty.after calls).entry id = none →
      (Catalog.empty.after (calls ++ more)).entry id = none := by
  refine ⟨(represents_empty.after valid short).mirrors, fun more id given deleted ↦ ?_⟩
  rw [Catalog.after, List.foldl_append]
  exact Catalog.entry_after_of_deleted given deleted more

/-- After the calls, two of three entries are left, the first of them under a name that it took
over. -/
theorem mirrors_of_mixedCalls : (∀ call ∈ mixedCalls, call.Valid) ∧
    (∀ call ∈ mixedCalls, call.Short) ∧ (Catalog.empty.after mixedCalls).given = 3 ∧
    ([1, 2, 3].map (Catalog.empty.after mixedCalls).entry) =
      [none,
        some ⟨"Accounts", some "Saved over", "admin", (single "Contact" 9).current⟩,
        some ⟨"Leads", none, "system", (single "Lead" 50).current⟩] ∧
    (empty.after mixedCalls).Mirrors (Catalog.empty.after mixedCalls) := by
  have valid : ∀ call ∈ mixedCalls, call.Valid := by decide +kernel
  have short : ∀ call ∈ mixedCalls, call.Short := by decide +kernel
  exact ⟨valid, short, by decide +kernel, by decide +kernel, (mirrors_of_calls valid short).1⟩

end Store

end TableView
