import TableView.Field.Basic

/-!
# Field lists

The fields of a table in their order, which is both the column order of its query and the order
shown. The operations address a field by name and take the first field of that name; a name that
is absent changes nothing. Edits change one attribute of one field, moves change only the order,
and no operation adds, drops or renames a field.
-/

namespace TableView

/-- Fields in order. Specified in `SPEC_FULL.md` 4.1. -/
structure FieldList where
  toList : List Field
  deriving DecidableEq

namespace FieldList

/-- No fields. -/
def empty : FieldList := ⟨[]⟩

/-- The fields that a data source reports, all visible, the first one of each name. Discovery of no
field at all is an error. Specified in `SPEC_FULL.md` 4.1. -/
def ofDiscovered (discovered : List DiscoveredField) : Except Error FieldList :=
  match firstOfEach DiscoveredField.name discovered with
  | [] => .error .noFieldsDiscovered
  | first :: rest => .ok ⟨(first :: rest).map DiscoveredField.toField⟩

/-- The fields of a saved configuration as they are, the first one of each name. -/
def ofSaved (saved : List SavedField) : FieldList :=
  ⟨(firstOfEach SavedField.name saved).map SavedField.toField⟩

/-- The first name that has occurred before. -/
def firstRepeated? : List String → List Field → Option String
  | _, [] => none
  | seen, f :: rest =>
    if seen.contains f.name then some f.name else firstRepeated? (f.name :: seen) rest

/-- Given fields, whose names have to be distinct. -/
def ofFields (fields : List Field) : Except Failure FieldList :=
  match firstRepeated? [] fields with
  | some name => .error (.badValue ("Duplicate field name: " ++ name))
  | none => .ok ⟨fields⟩

/-- The number of fields. -/
def size (fs : FieldList) : Nat := fs.toList.length

/-- The names, in order. -/
def names (fs : FieldList) : List String := fs.toList.map Field.name

/-- Whether there is a field of the name. -/
def has (fs : FieldList) (name : String) : Bool := fs.toList.any (·.name == name)

/-- The field of a name. -/
def get? (fs : FieldList) (name : String) : Option Field := fs.toList.find? (·.name == name)

/-- The visible fields, in order. -/
def visible (fs : FieldList) : List Field := fs.toList.filter Field.visible

/-- Whether a field is visible. -/
def anyVisible (fs : FieldList) : Bool := fs.toList.any Field.visible

/-- The fields that a filter shows, in order. Specified in `SPEC_FULL.md` 4.1. -/
def shown (fs : FieldList) (filter : FieldFilter) : List Field :=
  fs.toList.filter fun f => filter.admits f.visible

/-- Change the first field of a name. -/
def editFirst (name : String) (edit : Field → Field) : List Field → List Field
  | [] => []
  | f :: rest => if f.name = name then edit f :: rest else f :: editFirst name edit rest

/-- Show or hide a field. -/
def setVisible (fs : FieldList) (name : String) (b : Bool) : FieldList :=
  ⟨editFirst name (fun f => { f with visible := b }) fs.toList⟩

/-- Label a field. -/
def setLabel (fs : FieldList) (name label : String) : FieldList :=
  ⟨editFirst name (fun f => { f with label := label }) fs.toList⟩

/-- Make a field sortable or not. -/
def setSortable (fs : FieldList) (name : String) (b : Bool) : FieldList :=
  ⟨editFirst name (fun f => { f with sortable := b }) fs.toList⟩

/-- Show or hide all fields. -/
def setAllVisible (fs : FieldList) (b : Bool) : FieldList :=
  ⟨fs.toList.map fun f => { f with visible := b }⟩

/-- Exchange the first field of a name with the one before it. -/
def swapBack (name : String) : List Field → List Field
  | f :: g :: rest =>
    if f.name = name then f :: g :: rest
    else if g.name = name then g :: f :: rest
    else f :: swapBack name (g :: rest)
  | fs => fs

/-- Exchange the first field of a name with the one after it. -/
def swapForth (name : String) : List Field → List Field
  | f :: g :: rest =>
    if f.name = name then g :: f :: rest else f :: swapForth name (g :: rest)
  | fs => fs

/-- Move a field one place towards the front. -/
def moveUp (fs : FieldList) (name : String) : FieldList := ⟨swapBack name fs.toList⟩

/-- Move a field one place towards the end. -/
def moveDown (fs : FieldList) (name : String) : FieldList := ⟨swapForth name fs.toList⟩

/-- Put a field next to the first field of a name. -/
def insertBeside (moved : Field) (target : String) (after : Bool) : List Field → List Field
  | [] => []
  | f :: rest =>
    if f.name = target then (if after then f :: moved :: rest else moved :: f :: rest)
    else f :: insertBeside moved target after rest

/-- Move a field to the place before or after another one. Specified in `SPEC_FULL.md` 4.1. -/
def reorder (fs : FieldList) (moved target : String) (after : Bool) : FieldList :=
  if moved = target then fs
  else
    match fs.get? moved with
    | none => fs
    | some f =>
      if fs.has target then
        ⟨insertBeside f target after (fs.toList.eraseP (·.name == moved))⟩
      else fs

/-- The document of the fields. -/
def toValue (fs : FieldList) : Value := .list (fs.toList.map Field.toValue)

end FieldList

end TableView
