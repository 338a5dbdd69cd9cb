import TableView.Error

/-!
# Named choices

The two choices a table has besides its fields: the direction of a sort, and which fields a list
of fields shows. A value names a choice by exactly its name; any other value is refused with its
literal.
-/

namespace TableView

/-- The direction of a sort. -/
inductive Direction
  | ascending
  | descending
  deriving DecidableEq

namespace Direction

/-- The name of a direction. -/
def name : Direction → String
  | ascending => "asc"
  | descending => "desc"

/-- The direction of a name. -/
def named? (s : String) : Option Direction :=
  if s = "asc" then some ascending else if s = "desc" then some descending else none

/-- The direction that a value names. -/
def ofValue (v : Value) : Except Failure Direction :=
  let refused := .error (.badValue (v.literal ++ " is not a valid SortDirection"))
  match v with
  | .text s => match named? s with
    | some d => .ok d
    | none => refused
  | _ => refused

end Direction

/-- Which fields a list shows. -/
inductive FieldFilter
  | all
  | selected
  | unselected
  deriving DecidableEq

namespace FieldFilter

/-- The name of a filter. -/
def name : FieldFilter → String
  | all => "all"
  | selected => "selected"
  | unselected => "unselected"

/-- The filter of a name. -/
def named? (s : String) : Option FieldFilter :=
  if s = "all" then some all
  else if s = "selected" then some selected
  else if s = "unselected" then some unselected
  else none

/-- The filter that a value names. -/
def ofValue (v : Value) : Except Failure FieldFilter :=
  let refused := .error (.badValue (v.literal ++ " is not a valid FieldVisibilityFilter"))
  match v with
  | .text s => match named? s with
    | some f => .ok f
    | none => refused
  | _ => refused

/-- Whether a field of the given visibility is shown. -/
def admits (filter : FieldFilter) (visible : Bool) : Bool :=
  match filter with
  | all => true
  | selected => visible
  | unselected => !visible

end FieldFilter

end TableView
