import TableView.Editor.Session
import TableView.Task.Machine

/-!
# Calls to the outside

A session asks others for objects and fields, for values of a record, and for saved
configurations. A call fixes what is asked and the type of its answer. A suspension is an
operation that waits for an answer: it says which call was made and holds what the operation
remembers until then.
-/

namespace TableView.Editor

open TableView.Source (ObjectOption)

/-- A request to the outside. -/
inductive Call
  | objects
  | fields (object : String)
  | searchObjects (term : String)
  | values (object : Option String) (record : String) (names : List String)
  | config (id : Option Int)
  | save (config : Config) (name : String) (description : Option String) (id : Option Int)
  | delete (id : Option Int)
  | configs

/-- The type of the answer to a call. -/
def Call.Answer : Call → Type
  | objects => List ObjectOption
  | fields _ => List DiscoveredField
  | searchObjects _ => List ObjectOption
  | values _ _ _ => Entries Value
  | config _ => Option SavedConfig
  | save _ _ _ _ => Nat
  | delete _ => Bool
  | configs => List ConfigSummary

/-- What comes back from a call. -/
abbrev Call.Reply (c : Call) : Type := Except Failure c.Answer

/-- An operation that waits for the reply to its call. -/
inductive Suspension
  | objects
  | fields (requested : String)
  | search (term : String)
  | values (ticket : Ticket)
  | entry (id : Option Int) (generation : Nat)
  | entryFields (id : Option Int) (generation : Nat) (found : SavedConfig)
  | saving (config : Config) (name description : String) (id : Option Int)
  | deleting (id : Option Int)
  | configs

namespace Suspension

/-- The call that a suspended operation waits for. -/
def call : Suspension → Call
  | objects => .objects
  | fields requested => .fields requested
  | search term => .searchObjects term
  | values ticket => .values ticket.object ticket.record ticket.names
  | entry id _ => .config id
  | entryFields _ _ found => .fields found.config.object
  | saving config name description id => .save config name (some description) id
  | deleting id => .delete id
  | configs => .configs

/-- The most calls that the operation can still make, this one included. -/
def callsLeft : Suspension → Nat
  | entry _ _ => 3
  | entryFields _ _ _ => 2
  | fields _ => 2
  | _ => 1

end Suspension

/-- What an operation answers when it is done. -/
inductive Result
  | done
  | objects (found : List ObjectOption)
  | configId (id : Nat)
  | configs (found : List ConfigSummary)
  | config (c : Config)

/-- How far an operation has come. -/
abbrev Progress : Type := Task.Progress Suspension Result

end TableView.Editor
