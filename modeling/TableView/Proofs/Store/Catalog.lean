import Mathlib.Logic.Function.Basic
import TableView.Proofs.Store.Call

/-!
# Catalogs

A catalog is what a store is to those who call it: a plain map from ids to entries, without rows,
marks of deletion, texts of configurations and copies of their objects. Every operation changes the
map at one id at most. The ids are given in order, so that a new entry has an id that no entry had
before, and an id whose entry is deleted has no entry ever after (`entry_after_of_deleted`).
-/

namespace TableView

/-- What is saved under an id. -/
structure Catalog.Entry where
  name : String
  description : Option String
  createdBy : String
  config : Config
  deriving DecidableEq

/-- The entries of ids, and the last id that was given. -/
structure Catalog where
  entry : Nat → Option Catalog.Entry
  given : Nat

namespace Catalog

namespace Entry

/-- The entry of a new configuration. -/
def ofNew (n : NewConfig) : Entry :=
  ⟨n.name, n.description, labelOr NewConfig.system n.createdBy, n.config.current⟩

/-- The entry after a change: what the change does not give stays as it is. -/
def apply (e : Entry) (change : ConfigChange) : Entry :=
  ⟨change.name.getD e.name, change.description.or e.description, e.createdBy,
    (change.config.map Config.current).getD e.config⟩

/-- An entry as it is read back. -/
def saved (e : Entry) (id : Nat) : SavedConfig :=
  ⟨id, e.name, e.description, e.config.object, e.createdBy, true, e.config⟩

/-- The listing of an entry. -/
def summary (e : Entry) (id : Nat) : ConfigSummary :=
  ⟨id, e.name, e.config.object⟩

end Entry

/-- No entries. -/
def empty : Catalog := ⟨fun _ ↦ none, 0⟩

/-- The catalog with an entry under the next id. -/
def add (m : Catalog) (e : Entry) : Catalog :=
  ⟨Function.update m.entry (m.given + 1) (some e), m.given + 1⟩

/-- The catalog with an entry put in the place of another one, or with none in its place. -/
def put (m : Catalog) (id : Nat) (e : Option Entry) : Catalog :=
  { m with entry := Function.update m.entry id e }

section Entries

variable (m : Catalog)

theorem entry_add_self (e : Entry) : (m.add e).entry (m.given + 1) = some e :=
  Function.update_self _ _ _

theorem entry_add_of_ne {id : Nat} (apart : id ≠ m.given + 1) (e : Entry) :
    (m.add e).entry id = m.entry id :=
  Function.update_of_ne apart _ _

theorem entry_put_self (id : Nat) (e : Option Entry) : (m.put id e).entry id = e :=
  Function.update_self _ _ _

theorem entry_put_of_ne {id other : Nat} (apart : id ≠ other) (e : Option Entry) :
    (m.put other e).entry id = m.entry id :=
  Function.update_of_ne apart _ _

end Entries

/-! ### Looking up -/

/-- The entry of an id, with the id. -/
def find (m : Catalog) : Option Int → Except Failure (Option (Nat × Entry))
  | none => .ok none
  | some id =>
    if Store.idFits id then
      match id with
      | .ofNat id => .ok ((m.entry id).map (id, ·))
      | .negSucc _ => .ok none
    else .error Store.idOverflow

/-- A saved configuration, if there is one of the id. -/
def get (m : Catalog) (id : Option Int) : Except Failure (Option SavedConfig) :=
  (m.find id).map (Option.map fun (id, e) ↦ e.saved id)

/-- The configuration of an id. -/
def load (m : Catalog) (id : Option Int) : Except Failure Config :=
  match m.find id with
  | .error f => .error f
  | .ok none => .error (.engine (.configIdNotFound id))
  | .ok (some (_, e)) => .ok e.config

/-! ### Calls -/

/-- No other entry than that of the given id has the name. -/
def checkName (m : Catalog) (name : String) (own : Option Nat) : Except Error Unit :=
  if ∀ id ≤ m.given, ∀ e ∈ m.entry id, e.name = name → some id = own then .ok ()
  else .error (.nameTaken name)

/-- Whether an entry can be added. -/
def checkInsert (m : Catalog) (n : NewConfig) : Except Failure Unit := do
  (Store.checkConfig n.config).mapError .engine
  (m.checkName n.name none).mapError .engine
  Store.checkText n.config
  if Store.idFits (m.given + 1 : Nat) then .ok () else .error Store.noRoom

/-- Whether an entry can be changed. -/
def checkUpdate (m : Catalog) (id : Nat) (change : ConfigChange) : Except Failure Unit := do
  match change.name with
  | some name => (m.checkName name (some id)).mapError .engine
  | none => .ok ()
  match change.config with
  | some c =>
    (Store.checkConfig c).mapError .engine
    Store.checkText c
  | none => .ok ()

/-- Add an entry. -/
def create (m : Catalog) (n : NewConfig) : Except Failure SavedConfig × Catalog :=
  match m.checkInsert n with
  | .error f => (.error f, m)
  | .ok () => (.ok ((Entry.ofNew n).saved (m.given + 1)), m.add (.ofNew n))

/-- Change an entry. -/
def update (m : Catalog) (id : Option Int) (change : ConfigChange) :
    Except Failure SavedConfig × Catalog :=
  match m.find id with
  | .error f => (.error f, m)
  | .ok none => (.error (.engine (.configIdNotFound id)), m)
  | .ok (some (id, e)) =>
    match m.checkUpdate id change with
    | .error f => (.error f, m)
    | .ok () => (.ok ((e.apply change).saved id), m.put id (some (e.apply change)))

/-- The failure of a save whose name is not accepted. -/
def badName (kind : Schema.FaultKind) : Failure := .schema [⟨[.key "name"], kind⟩]

/-- What is wrong with a name that is blank. -/
def blankName : Schema.FaultKind := .valueError "Config name cannot be empty"

/-- What is wrong with a name that is too long. -/
def longName : Schema.FaultKind := .valueError "Config name cannot exceed 255 characters"

/-- Save a draft as a new entry. It has to have a name, which is trimmed. -/
def saveNew (m : Catalog) (c : Config) (name description : Option String) :
    Except Failure SavedConfig × Catalog :=
  match name with
  | none => (.error (badName .stringType), m)
  | some name =>
    if Text.isBlankText name then (.error (badName blankName), m)
    else if maxNameLength < (Text.trim name).length then (.error (badName longName), m)
    else m.create ⟨Text.trim name, description, c, some NewConfig.system⟩

/-- Save a draft over the entry of an id. A name is trimmed; one that is not given stays, and so
does the description. -/
def saveOver (m : Catalog) (c : Config) (name description : Option String) (id : Option Int) :
    Except Failure SavedConfig × Catalog :=
  match name with
  | none => m.update id ⟨none, description, some c⟩
  | some name =>
    if Text.isBlankText name then (.error (badName blankName), m)
    else m.update id ⟨some (Text.trim name), description, some c⟩

/-- Save a draft: over the entry of an id, or as a new one where the id is missing or zero. -/
def save (m : Catalog) (c : Config) (name description : Option String) (id : Option Int) :
    Except Failure SavedConfig × Catalog :=
  if id.getD 0 = 0 then m.saveNew c name description else m.saveOver c name description id

/-- Delete an entry; false if there is none of the id. -/
def delete (m : Catalog) (id : Option Int) : Except Failure Bool × Catalog :=
  match m.find id with
  | .error f => (.error f, m)
  | .ok none => (.ok false, m)
  | .ok (some (id, _)) => (.ok true, m.put id none)

/-- Make a call. -/
def perform (m : Catalog) : Store.Call → Except Failure Store.Answer × Catalog
  | .create n => Store.answering .saved (m.create n)
  | .update id change => Store.answering .saved (m.update id change)
  | .save c name description id =>
    Store.answering (fun entry ↦ .id entry.id) (m.save c name description id)
  | .delete id => Store.answering .deleted (m.delete id)

/-- The catalog after calls that are made one after another. -/
def after (m : Catalog) (calls : List Store.Call) : Catalog :=
  calls.foldl (fun m call ↦ (m.perform call).2) m

variable {m m' : Catalog}

/-! ### What a call can do -/

theorem entry_of_find {id : Option Int} {found : Nat × Entry} (h : m.find id = .ok (some found)) :
    m.entry found.1 = some found.2 := by
  unfold find at h
  split at h
  · nomatch h
  · split at h
    · split at h
      · obtain ⟨e, he, rfl⟩ := Option.map_eq_some_iff.mp (Except.ok.inj h)
        exact he
      · nomatch h
    · nomatch h

/-- What a call can make of a catalog: nothing, an entry more, or a change at one id that has an
entry. -/
inductive Effect (m : Catalog) : Catalog → Prop
  | kept : Effect m m
  | added (e : Entry) : Effect m (m.add e)
  | changed (id : Nat) (e : Entry) (found : m.entry id = some e) (other : Option Entry) :
    Effect m (m.put id other)

private theorem effect_create (n : NewConfig) : m.Effect (m.create n).2 := by
  unfold create
  split
  · exact .kept
  · exact .added _

private theorem effect_update (id : Option Int) (change : ConfigChange) :
    m.Effect (m.update id change).2 := by
  unfold update
  split
  · exact .kept
  · exact .kept
  · next found =>
    split
    · exact .kept
    · exact .changed _ _ (entry_of_find found) _

private theorem effect_saveNew (c : Config) (name description : Option String) :
    m.Effect (m.saveNew c name description).2 := by
  unfold saveNew
  split
  · exact .kept
  · split
    · exact .kept
    · split
      · exact .kept
      · exact effect_create _

private theorem effect_saveOver (c : Config) (name description : Option String) (id : Option Int) :
    m.Effect (m.saveOver c name description id).2 := by
  unfold saveOver
  split
  · exact effect_update _ _
  · split
    · exact .kept
    · exact effect_update _ _

private theorem effect_save (c : Config) (name description : Option String) (id : Option Int) :
    m.Effect (m.save c name description id).2 := by
  unfold save
  split
  · exact effect_saveNew c name description
  · exact effect_saveOver c name description id

private theorem effect_delete (id : Option Int) : m.Effect (m.delete id).2 := by
  unfold delete
  split
  · exact .kept
  · exact .kept
  · next found => exact .changed _ _ (entry_of_find found) _

theorem effect_perform (call : Store.Call) : m.Effect (m.perform call).2 := by
  cases call with
  | create n => exact effect_create n
  | update id change => exact effect_update id change
  | save c name description id => exact effect_save c name description id
  | delete id => exact effect_delete id

/-- An id that was given and has no entry gets none. -/
private theorem Effect.entry_eq_none (effect : m.Effect m') {id : Nat} (given : id ≤ m.given)
    (deleted : m.entry id = none) : id ≤ m'.given ∧ m'.entry id = none := by
  cases effect with
  | kept => exact ⟨given, deleted⟩
  | added e =>
    refine ⟨Nat.le_succ_of_le given, ?_⟩
    rw [entry_add_of_ne m (Nat.ne_of_lt (Nat.lt_succ_of_le given)), deleted]
  | changed other e found change =>
    -- What is changed has an entry, so it is the entry of another id.
    have apart : id ≠ other := by
      rintro rfl
      exact nomatch deleted.symm.trans found
    exact ⟨given, (entry_put_of_ne m apart change).trans deleted⟩

/-- What is deleted stays deleted. -/
theorem entry_after_of_deleted {id : Nat} (given : id ≤ m.given) (deleted : m.entry id = none)
    (calls : List Store.Call) : (m.after calls).entry id = none := by
  induction calls generalizing m with
  | nil => exact deleted
  | cons call rest ih =>
    obtain ⟨given, deleted⟩ := (effect_perform call).entry_eq_none given deleted
    exact ih given deleted

end Catalog

end TableView
