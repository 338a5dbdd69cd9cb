import TableView.Editor.Operation
import TableView.Panel.Operation
import TableView.Source.Lookup
import TableView.Task.Desk

/-!
# The world of the service

What editing sessions and panels of the service ask: a data source for objects, fields, values and
query results, and the store for saved configurations. A session or a panel lives for one request.
-/

namespace TableView.Api

/-- A data source and a store. -/
structure World where
  source : Source.Database
  store : Store

namespace World

/-- The values of some fields of one record. -/
def values (w : World) (object : Option String) (record : String) (names : List String) :
    Except Failure (Entries Value) :=
  (w.source.fieldValues object (.text record) names).mapError .engine

/-- Answer a call of an editing session. -/
def editorReply : Editor.machine.Outside World
  | w, .objects => (.ok w.source.objects, w)
  | w, .fields object => ((w.source.fields (some object)).mapError .engine, w)
  | w, .searchObjects term => (.ok (w.source.searchObjects term), w)
  | w, .values object record names => (w.values object record names, w)
  | w, .config id => (w.store.get id, w)
  | w, .save config name description id =>
    let (saved, store) := w.store.save config (some name) description id
    (saved, { w with store := store })
  | w, .delete id =>
    let (deleted, store) := w.store.delete id
    (deleted, { w with store := store })
  | w, .configs => (.ok w.store.list, w)

/-- Answer a call of a panel. -/
def panelReply : Panel.machine.Outside World
  | w, .config name => (w.store.loadByName name, w)
  | w, .values object record names => (w.values object record names, w)
  | w, .execute query => ((w.source.execute query).mapError .engine, w)

/-- Run operations in a new editing session. -/
def edit (w : World) (commands : List Editor.Command) :
    Task.Desk Editor.machine World × List (Task.Report Editor.machine) :=
  Task.Desk.runAll editorReply ⟨Editor.Session.initial none, w, []⟩ commands

/-- Run an operation in a new panel. -/
def view (w : World) (command : Panel.Command) :
    Task.Desk Panel.machine World × Task.Report Panel.machine :=
  Task.Desk.run panelReply ⟨Panel.State.initial, w, []⟩ command

end World

end TableView.Api
