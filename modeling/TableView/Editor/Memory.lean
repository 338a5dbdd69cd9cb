import TableView.Editor.Operation

/-!
# A world in memory

A world of given objects, records and saved configurations, from which the calls of a session are
answered. An object can be marked so that its fields cannot be listed, and a record so that every
look at it fails.
-/

namespace TableView.Editor

open TableView.Source (ObjectOption)

/-- An object: its fields, or the failure to list them. -/
structure MemoryObject where
  name : String
  label : String
  fields : Except Failure (List DiscoveredField)

/-- A record: values, or the failure of every look at it. -/
structure MemoryRecord where
  object : Option String
  id : String
  content : Except Failure (Entries Value)

/-- Objects, records and saved configurations. -/
structure Memory where
  objects : List MemoryObject
  objectsError : Option String
  records : List MemoryRecord
  store : Store

namespace Memory

/-- An object as it can be chosen. -/
def option (o : MemoryObject) : ObjectOption := ⟨o.name, o.label⟩

/-- Put an object at the end, in place of any other of its name. -/
def setObject (m : Memory) (o : MemoryObject) : Memory :=
  { m with objects := m.objects.filter (·.name != o.name) ++ [o] }

/-- Take an object away. -/
def dropObject (m : Memory) (name : String) : Memory :=
  { m with objects := m.objects.filter (·.name != name) }

/-- Put a record in place of any other of its object and id. -/
def setRecord (m : Memory) (r : MemoryRecord) : Memory :=
  { m with records :=
      m.records.filter (fun other => other.object != r.object || other.id != r.id) ++ [r] }

/-- The objects whose name contains a term, whatever the letter case. -/
def searchObjects (m : Memory) (term : String) : List ObjectOption :=
  (m.objects.filter fun o =>
    Source.occursIn (Text.lower term).toList (Text.lower o.name).toList).map option

/-- The fields of an object. -/
def fields (m : Memory) (object : String) : Except Failure (List DiscoveredField) :=
  match m.objects.find? (·.name == object) with
  | some o => o.fields
  | none => .error (.engine (.unknownObject (some object)))

/-- Some values of a record. -/
def values (m : Memory) (object : Option String) (record : String) (names : List String) :
    Except Failure (Entries Value) :=
  match m.records.find? fun r => r.object == object && r.id == record with
  | none =>
    .error (.engine (.reported .resolution ("Record '" ++ record ++ "' not found")))
  | some r => r.content.map fun values => values.filter fun e => names.contains e.1

/-- Answer a call. -/
def reply : machine.Outside Memory
  | m, .objects => match m.objectsError with
    | some text => (.error (.engine (.reported .discovery text)), m)
    | none => (.ok (m.objects.map option), m)
  | m, .fields object => (m.fields object, m)
  | m, .searchObjects term => (.ok (m.searchObjects term), m)
  | m, .values object record names => (m.values object record names, m)
  | m, .config id => (m.store.get id, m)
  | m, .save config name description id =>
    let (saved, store) := m.store.save config (some name) description id
    (saved, { m with store := store })
  | m, .delete id =>
    let (deleted, store) := m.store.delete id
    (deleted, { m with store := store })
  | m, .configs => (.ok m.store.list, m)

end Memory

end TableView.Editor
