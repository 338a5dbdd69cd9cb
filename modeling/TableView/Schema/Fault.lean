/-!
# Faults of a document against its schema

A fault is the path to the part that does not fit, as keys and list positions from the outside in,
and what is wrong with that part. Reading a document reports all of its faults.
-/

namespace TableView.Schema

/-- One step into a document. -/
inductive Step
  | key (name : String)
  | index (position : Nat)
  deriving DecidableEq

/-- The text of a step. -/
def Step.text : Step → String
  | key name => name
  | index position => toString position

/-- What is wrong with a part of a document. -/
inductive FaultKind
  | missing
  | extraForbidden
  | stringType
  | intType
  | intParsing
  | intParsingSize
  | intFromFloat
  | finiteNumber
  | boolType
  | boolParsing
  | enumeration
  | listType
  | modelType
  | modelAttributesType
  | jsonInvalid
  | greaterThanEqual
  | lessThanEqual
  | valueError (message : String)
  deriving DecidableEq

/-- The name of a kind of fault. -/
def FaultKind.name : FaultKind → String
  | missing => "missing"
  | extraForbidden => "extra_forbidden"
  | stringType => "string_type"
  | intType => "int_type"
  | intParsing => "int_parsing"
  | intParsingSize => "int_parsing_size"
  | intFromFloat => "int_from_float"
  | finiteNumber => "finite_number"
  | boolType => "bool_type"
  | boolParsing => "bool_parsing"
  | enumeration => "enum"
  | listType => "list_type"
  | modelType => "model_type"
  | modelAttributesType => "model_attributes_type"
  | jsonInvalid => "json_invalid"
  | greaterThanEqual => "greater_than_equal"
  | lessThanEqual => "less_than_equal"
  | valueError _ => "value_error"

/-- The message that belongs to a kind of fault, where it has one of its own. -/
def FaultKind.message? : FaultKind → Option String
  | valueError message => some ("Value error, " ++ message)
  | _ => none

/-- A fault: the path to it and its kind. -/
structure Fault where
  path : List Step
  kind : FaultKind
  deriving DecidableEq

namespace Fault

/-- The fault seen from one level further out. -/
def under (step : Step) (f : Fault) : Fault :=
  { f with path := step :: f.path }

/-- The order of reports: by the texts of the path, then by the name of the kind. -/
def precedes (f g : Fault) : Bool :=
  let fp := f.path.map Step.text
  let gp := g.path.map Step.text
  fp < gp || (fp == gp && f.kind.name ≤ g.kind.name)

/-- Faults in the order of reports. -/
def sorted (faults : List Fault) : List Fault :=
  faults.mergeSort precedes

end Fault

end TableView.Schema
