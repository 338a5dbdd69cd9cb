import TableView.Config.Reader

/-!
# New configurations and changes

What is sent to create a saved configuration or to change one. Names are trimmed and must not be
blank; a name that is to be stored for the first time, or read back, is at most 255 characters
long. Members that are not known are refused.
-/

namespace TableView

open Schema

/-- The longest name of a saved configuration. -/
def maxNameLength : Nat := 255

/-- A name that is not blank, trimmed. -/
def nonBlankName (s : String) : Check String :=
  if Text.isBlankText s then .fault (.valueError "Config name cannot be empty")
  else .ok (Text.trim s)

/-- A name that is neither blank nor too long, trimmed. -/
def boundedName (s : String) : Check String :=
  if Text.isBlankText s then .fault (.valueError "Config name cannot be empty")
  else if maxNameLength < (Text.trim s).length then
    .fault (.valueError "Config name cannot exceed 255 characters")
  else .ok (Text.trim s)

/-- A check on the result of a check. -/
def Schema.Check.andThen {α β : Type} (c : Check α) (next : α → Check β) : Check β :=
  match c with
  | .ok a => next a
  | .rejected faults => .rejected faults
  | .overflow message => .overflow message

/-- A configuration to be saved under a name. -/
structure NewConfig where
  name : String
  description : Option String
  config : Config
  createdBy : Option String
  deriving DecidableEq

/-- A change of a saved configuration: what is absent stays as it is. -/
structure ConfigChange where
  name : Option String
  description : Option String
  config : Option Config
  deriving DecidableEq

namespace NewConfig

/-- The author of a configuration where none is given. -/
def system : String := "system"

/-- Read a new configuration. `top` and `nested` are the faults of what is not an object, for the
whole and for its parts. -/
def ofValue (top nested : FaultKind) : Value → Check NewConfig :=
  object top fun m =>
    Check.withFaults (unknownMembers m ["name", "description", "config", "created_by"]) <|
      NewConfig.mk
        <$> required m "name" "name" (fun v => (string v).andThen boundedName)
        <*> withDefault m "description" "description" none (optional string)
        <*> required m "config" "config" (Config.ofValue nested)
        <*> withDefault m "created_by" "created_by" (some system) (optional string)

/-- The document of a new configuration. -/
def toValue (n : NewConfig) : Value :=
  .object [("name", .text n.name), ("description", .ofText? n.description),
    ("config", n.config.toValue), ("created_by", .ofText? n.createdBy)]

end NewConfig

namespace ConfigChange

/-- Read a change. `top` and `nested` are the faults of what is not an object, for the whole and
for its parts. -/
def ofValue (top nested : FaultKind) : Value → Check ConfigChange :=
  object top fun m =>
    Check.withFaults (unknownMembers m ["name", "description", "config"]) <|
      ConfigChange.mk
        <$> withDefault m "name" "name" none
          (optional fun v => (string v).andThen nonBlankName)
        <*> withDefault m "description" "description" none (optional string)
        <*> withDefault m "config" "config" none (optional (Config.ofValue nested))

/-- The document of a change. -/
def toValue (c : ConfigChange) : Value :=
  .object [("name", .ofText? c.name), ("description", .ofText? c.description),
    ("config", (c.config.map Config.toValue).getD .null)]

end ConfigChange

end TableView
