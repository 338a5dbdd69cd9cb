import TableView.Config.Draft

/-!
# Saved configurations

The store keeps one row for each saved configuration, the configuration itself as a text. A
deleted row stays and is never found again, so an id is never given twice. Operations that change
the store answer with the row read back; since reading is checked on its own, an operation can
fail although its change was made. A row is written only if its configuration can be written as a
text and its id fits the key column.
-/

namespace TableView

/-- A stored row. Specified in `SPEC_FULL.md` 3. -/
structure StoredConfig where
  id : Nat
  name : String
  description : Option String
  object : String
  createdBy : String
  active : Bool
  json : String
  deriving DecidableEq

/-- A saved configuration as it is read back. -/
structure SavedConfig where
  id : Nat
  name : String
  description : Option String
  object : String
  createdBy : String
  active : Bool
  config : Config
  deriving DecidableEq

/-- A saved configuration in a listing. -/
structure ConfigSummary where
  id : Nat
  name : String
  object : String
  deriving DecidableEq

namespace SavedConfig

/-- The document of a saved configuration. -/
def toValue (s : SavedConfig) : Value :=
  .object [("id", .int s.id), ("name", .text s.name), ("description", .ofText? s.description),
    ("object_api_name", .text s.object), ("created_by", .text s.createdBy),
    ("is_active", .bool s.active), ("config", s.config.toValue)]

end SavedConfig

namespace ConfigSummary

/-- The document of a listed configuration. -/
def toValue (s : ConfigSummary) : Value :=
  .object [("id", .int s.id), ("name", .text s.name), ("object_api_name", .text s.object)]

end ConfigSummary

namespace StoredConfig

/-- The configuration that a row holds. -/
def config (r : StoredConfig) : Except Failure Config :=
  Config.read (.text r.json)

/-- Read a row back. The configuration is read first, then the name is checked. -/
def saved (r : StoredConfig) : Except Failure SavedConfig :=
  match r.config with
  | .error f => .error f
  | .ok config =>
    match (boundedName r.name).under (.key "name") with
    | .ok name => .ok ⟨r.id, name, r.description, r.object, r.createdBy, r.active, config⟩
    | .rejected faults => .error (.schema faults)
    | .overflow message => .error (.overflow message)

/-- The listing of a row. -/
def summary (r : StoredConfig) : ConfigSummary :=
  ⟨r.id, r.name, r.object⟩

/-- The row after a change: what the change does not give stays as it is. -/
def apply (r : StoredConfig) (change : ConfigChange) : StoredConfig :=
  { r with
    name := change.name.getD r.name
    description := change.description.or r.description
    object := (change.config.map Config.object).getD r.object
    json := (change.config.map Config.print).getD r.json }

end StoredConfig

/-- The stored rows, in the order of their ids. -/
structure Store where
  rows : List StoredConfig
  deriving DecidableEq

namespace Store

/-- No rows. -/
def empty : Store := ⟨[]⟩

/-- Whether an id fits the key column. -/
def idFits (id : Int) : Bool :=
  -9223372036854775808 ≤ id && id ≤ 9223372036854775807

/-- The failure at an id that does not fit. -/
def idOverflow : Failure := .overflow "Python int too large to convert to SQLite INTEGER"

/-- The failure where no id is left for another row. -/
def noRoom : Failure := .storage "database or disk is full"

/-- The row of an id that is not deleted. -/
def find (s : Store) : Option Int → Except Failure (Option StoredConfig)
  | none => .ok none
  | some id =>
    if idFits id then .ok (s.rows.find? fun r => r.active && (r.id : Int) == id)
    else .error idOverflow

/-- The first row of a name that is not deleted. -/
def findByName (s : Store) (name : String) : Option StoredConfig :=
  s.rows.find? fun r => r.active && r.name == name

/-- The id of the next row. -/
def nextId (s : Store) : Nat :=
  s.rows.foldl (fun n r => max n r.id) 0 + 1

/-- What a configuration has to have to be saved: an object and a visible field. -/
def checkConfig (c : Config) : Except Error Unit :=
  if c.object = "" then .error .objectRequired
  else if !c.anyVisible then .error .visibleFieldRequired
  else .ok ()

/-- No other row than the given one has the name. -/
def checkName (s : Store) (name : String) (own : Option Nat) : Except Error Unit :=
  match s.findByName name with
  | none => .ok ()
  | some r => if some r.id = own then .ok () else .error (.nameTaken name)

/-- Whether a new configuration can be saved. -/
def checkNew (s : Store) (n : NewConfig) : Except Error Unit := do
  checkConfig n.config
  s.checkName n.name none

/-- Whether a row can be changed. A name that stays the same is not looked up. -/
def checkChange (s : Store) (r : StoredConfig) (change : ConfigChange) : Except Error Unit := do
  match change.name with
  | some name => if name ≠ r.name then s.checkName name (some r.id)
  | none => pure ()
  match change.config with
  | some config => checkConfig config
  | none => pure ()

/-- Whether a configuration can be written as a text: its row limit must not have more digits than
an integer in text may have. -/
def checkText (c : Config) : Except Failure Unit :=
  if Number.maxIntegerDigits < Number.digitCount c.limit then
    .error (.badValue Number.tooManyDigits)
  else .ok ()

/-- Whether a row can be added for a new configuration. -/
def checkInsert (s : Store) (n : NewConfig) : Except Failure Unit := do
  (s.checkNew n).mapError .engine
  checkText n.config
  if idFits s.nextId then .ok () else .error noRoom

/-- Whether a row can be written with a change. -/
def checkUpdate (s : Store) (r : StoredConfig) (change : ConfigChange) : Except Failure Unit := do
  (s.checkChange r change).mapError .engine
  match change.config with
  | some config => checkText config
  | none => .ok ()

/-- The row of a new configuration. -/
def newRow (s : Store) (n : NewConfig) : StoredConfig :=
  ⟨s.nextId, n.name, n.description, n.config.object, labelOr NewConfig.system n.createdBy, true,
    n.config.print⟩

/-- Replace the row of an id. -/
def replace (s : Store) (id : Nat) (row : StoredConfig) : Store :=
  ⟨s.rows.map fun r => if r.id = id then row else r⟩

/-- Save a new configuration. -/
def create (s : Store) (n : NewConfig) : Except Failure SavedConfig × Store :=
  match s.checkInsert n with
  | .error f => (.error f, s)
  | .ok () => ((s.newRow n).saved, ⟨s.rows ++ [s.newRow n]⟩)

/-- Change a saved configuration. -/
def update (s : Store) (id : Option Int) (change : ConfigChange) :
    Except Failure SavedConfig × Store :=
  match s.find id with
  | .error f => (.error f, s)
  | .ok none => (.error (.engine (.configIdNotFound id)), s)
  | .ok (some r) =>
    match s.checkUpdate r change with
    | .error f => (.error f, s)
    | .ok () => ((r.apply change).saved, s.replace r.id (r.apply change))

/-- The change that saves a draft over a saved configuration. -/
def changeOf (c : Config) (name description : Option String) : Schema.Check ConfigChange :=
  ((match name with
    | some name => (nonBlankName name).map some
    | none => .ok none : Schema.Check (Option String)).under (.key "name")).map fun name =>
      ⟨name, description, some c⟩

/-- The new configuration that saves a draft. -/
def newOf (c : Config) (name description : Option String) : Schema.Check NewConfig :=
  ((match name with
    | some name => boundedName name
    | none => .fault .stringType : Schema.Check String).under (.key "name")).map fun name =>
      ⟨name, description, c, some NewConfig.system⟩

/-- The id of what was saved. -/
def idOf : Except Failure SavedConfig × Store → Except Failure Nat × Store
  | (.ok saved, s) => (.ok saved.id, s)
  | (.error f, s) => (.error f, s)

/-- Save a draft: over the saved configuration of an id, or as a new one where the id is missing or
zero. Specified in `SPEC_FULL.md` 6. -/
def save (s : Store) (c : Config) (name description : Option String) (id : Option Int) :
    Except Failure Nat × Store :=
  if id.getD 0 = 0 then
    match newOf c name description with
    | .ok n => idOf (s.create n)
    | .rejected faults => (.error (.schema faults), s)
    | .overflow message => (.error (.overflow message), s)
  else
    match changeOf c name description with
    | .ok change => idOf (s.update id change)
    | .rejected faults => (.error (.schema faults), s)
    | .overflow message => (.error (.overflow message), s)

/-- A saved configuration, if there is one of the id. -/
def get (s : Store) (id : Option Int) : Except Failure (Option SavedConfig) :=
  match s.find id with
  | .error f => .error f
  | .ok none => .ok none
  | .ok (some r) => r.saved.map some

/-- The configuration of an id. -/
def load (s : Store) (id : Option Int) : Except Failure Config :=
  match s.find id with
  | .error f => .error f
  | .ok none => .error (.engine (.configIdNotFound id))
  | .ok (some r) => r.config

/-- The configuration of a name. -/
def loadByName (s : Store) (name : String) : Except Failure Config :=
  match s.findByName name with
  | none => .error (.engine (.configNameNotFound name))
  | some r => r.config

/-- Delete a saved configuration; false if there is none of the id. Specified in `SPEC_FULL.md` 6.
-/
def delete (s : Store) (id : Option Int) : Except Failure Bool × Store :=
  match s.find id with
  | .error f => (.error f, s)
  | .ok none => (.ok false, s)
  | .ok (some r) => (.ok true, s.replace r.id { r with active := false })

/-- The saved configurations, in the order of their names. -/
def list (s : Store) : List ConfigSummary :=
  ((s.rows.filter StoredConfig.active).mergeSort (fun a b => a.name ≤ b.name)).map
    StoredConfig.summary

end Store

end TableView
