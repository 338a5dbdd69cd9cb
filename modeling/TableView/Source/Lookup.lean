import TableView.Field.Basic
import TableView.Source.Select
import TableView.Text.LetterCase

/-!
# What a data source answers

Discovery of objects and fields, search for objects, lookup of the values of one record, and the
execution of a query. A name with underscores is shown as its parts, each capitalized.
-/

namespace TableView.Source

/-- The label of a name. -/
def labelOfName (name : String) : String :=
  if name.toList.contains '_' then
    String.intercalate " " (((name.toList.splitOn '_').filter (!·.isEmpty)).map fun part =>
      Text.capitalize (String.ofList part))
  else name

/-- An object that can be chosen. -/
structure ObjectOption where
  name : String
  label : String
  deriving DecidableEq

namespace ObjectOption

/-- Read an object option. -/
def ofValue : Value → Schema.Check ObjectOption :=
  Schema.object .modelType fun m =>
    ObjectOption.mk <$> Schema.required m "apiName" "api_name" Schema.string
      <*> Schema.required m "label" "label" Schema.string

/-- The document of an object option. -/
def toValue (o : ObjectOption) : Value :=
  .object [("apiName", .text o.name), ("label", .text o.label)]

end ObjectOption

/-- Whether a text occurs in another one. -/
def occursIn (needle : List Char) : List Char → Bool
  | [] => needle.isEmpty
  | c :: rest => needle.isPrefixOf (c :: rest) || occursIn needle rest

namespace Database

/-- All objects, in the order of their names. -/
def objects (db : Database) : List ObjectOption :=
  db.objectNames.map fun name => ⟨name, labelOfName name⟩

/-- The objects whose name or label contains a term, whatever the letter case. A blank term finds
all. Specified in `SPEC_FULL.md` 6. -/
def searchObjects (db : Database) (term : String) : List ObjectOption :=
  let needle := (Text.lower (Text.trim term)).toList
  db.objects.filter fun o =>
    needle.isEmpty || occursIn needle (Text.lower o.name).toList ||
      occursIn needle (Text.lower o.label).toList

/-- The fields of an object. -/
def fields (db : Database) (object : Option String) : Except Error (List DiscoveredField) :=
  match object.bind db.table? with
  | none => .error (.unknownObject object)
  | some t =>
    match db.columnsOf t with
    | [] => .error (.objectWithoutFields t.name)
    | columns => .ok (columns.map fun c => ⟨c.1, labelOfName c.1⟩)

/-- The column that identifies the records of a table: `Id`, or else its only key column. -/
def keyColumn (t : Table) : Except Error String :=
  if t.columnNames.contains Grid.idColumn then .ok Grid.idColumn
  else
    match t.key with
    | [column] => .ok column
    | _ => .error (.noIdentifierColumn t.name)

/-- The first row of a table whose key column equals a record id. -/
def findRow? (t : Table) (key : String) (record : Value) : Option (List Value) :=
  match t.position? key with
  | none => none
  | some position => t.rows.find? fun row => match t.columns[position]? with
    | some info => info.2.equals (Table.cell row position) record
    | none => false

/-- The values of the named columns in a row, typed. -/
def typedValues (t : Table) (row : List Value) (names : List String) : Entries Value :=
  Entries.ofList (names.filterMap fun name => do
    let position ← t.position? name
    let info ← t.columns[position]?
    return (name, info.2.typed (Table.cell row position)))

/-- The values of some fields of one record. Specified in `SPEC_FULL.md` 6. -/
def fieldValues (db : Database) (object : Option String) (record : Value) (names : List String) :
    Except Error (Entries Value) :=
  if names.isEmpty then .ok []
  else
    match object.bind db.table? with
    | none => .error (.unknownContextObject object)
    | some t =>
      match names.filter fun n => !(db.columnsOf t).any (·.1 == n) with
      | unknown :: more => .error (.unknownFields t.name (unknown :: more))
      | [] =>
        match keyColumn t with
        | .error e => .error e
        | .ok key =>
          match db.recordErrors.get? t.name with
          | some text => .error (.recordData text)
          | none =>
            match findRow? t key record with
            | some row => .ok (typedValues t row names)
            | none => .error (.recordMissing record.toText t.name)

/-- The outcome of a query that may be run. -/
def outcome (db : Database) (query : String) : Outcome :=
  match db.known.get? query with
  | some o => o
  | none =>
    match (Selection.read query).bind (Selection.run db) with
    | .ok (keys, rows) => .rows keys rows
    | .error text => .error text

/-- Run a query. A key that occurs twice keeps its first place and its last value. -/
def execute (db : Database) (query : String) : Except Error QueryResult :=
  match checkSelect query with
  | .error e => .error e
  | .ok () =>
    match db.outcome query with
    | .error text => .error (.database text)
    | .rows keys rows =>
      .ok ⟨keys.map fun k => ⟨k, labelOfName k, true⟩,
        rows.map fun row => Entries.ofList (keys.zip row)⟩

end Database

end TableView.Source
