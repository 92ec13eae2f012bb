import EventForge.Sql.Database
import EventForge.Sql.Function
import EventForge.Sql.JsonFunction

/-!
# Rows and what can be seen of them

Where the rows of a query come from, and which of them an expression can name.
-/

namespace EventForge

/-!
## Rows for given values

Some of the tables that the database provides take values: the name of a table whose columns are to
be listed, or a text of JSON whose members are.  The values are columns as well, which are not shown
unless they are named.
-/

namespace VirtualTable

/-- The listings that take a name, and the database that it belongs to. -/
def takesName (name : Text) : Bool :=
  (listings.any fun entry => settingLead ++ entry.1 = name) &&
    !(([ "pragma_collation_list", "pragma_compile_options", "pragma_function_list",
      "pragma_module_list", "pragma_pragma_list" ] : List Text).contains name)

/-- The columns for the values that a table takes. -/
def given (table : VirtualTable) : List Text :=
  if table.name = ("json_each" : Text) || table.name = ("json_tree" : Text) then ["json", "root"]
  else if takesName table.name then ["arg", "schema"]
  else []

/-- The columns of a table as they are listed: a column of a view has the type of the one it shows. -/
structure ListedColumn where
  name : Text
  typeName : Text
  notNull : Bool := false
  standard : Option Text := none
  /-- The place in the primary key, counted from one. -/
  key : Nat := 0
  /-- How a generated column is kept: by number. -/
  kept : Nat := 0

/-- The columns of a table. -/
def columnsOf (table : SqlTable) : List ListedColumn :=
  table.columns.map fun column =>
    { name := column.name, typeName := column.listedType, notNull := column.notNull
      standard := column.standardText
      key := ((table.primary.findIdx? (sameName column.name)).map (· + 1)).getD 0
      kept := match column.generated with
        | some (_, true) => 3
        | some (_, false) => 2
        | none => 0 }

/-- A truth value as a number. -/
def flag (value : Bool) : Cell := .integer (if value then 1 else 0)

/-- The rows of a list of columns.  Generated columns are left out unless all are wanted. -/
def columnRows (all : Bool) (columns : List ListedColumn) : List (List Cell) :=
  ((columns.filter fun column => all || column.kept = 0).zipIdx).map fun (column, position) =>
    [.integer position, .text column.name, .text column.typeName, flag column.notNull,
      (column.standard.map Cell.text).getD .null, .integer column.key] ++
      (if all then [Cell.integer column.kept] else [])

/-- The rows of the indexes of a table, those made last first. -/
def indexRows (database : Database) (table : SqlTable) : List (List Cell) :=
  (database.indexesOf table.name).zipIdx.map fun (index, position) =>
    let origin : Text :=
      if !index.implied then "c"
      else if index.columns? = some table.primary then "pk"
      else "u"
    [.integer position, .text index.name, flag index.unique, .text origin,
      flag index.condition.isSome]

/-- The rows of the parts of an index. -/
def termRows (all : Bool) (table : SqlTable) (index : SqlIndex) : List (List Cell) :=
  let collationName (collation : Collation) : Text :=
    match collation with
    | .binary => "BINARY"
    | .noCase => "NOCASE"
    | .trimmed => "RTRIM"
  let terms := index.terms.zipIdx.map fun (term, position) =>
    let name := term.value.column?
    let place : Int :=
      match name.bind table.columnIndex? with
      | some found => found
      | none => if name.isSome then -1 else -2
    [Cell.integer position, .integer place, (name.map Cell.text).getD .null] ++
      (if all then [.integer 0, .text (collationName term.collation), .integer 1] else [])
  if all && table.hasIds then
    terms ++ [[.integer index.terms.length, .integer (-1), .null, .integer 0, .text "BINARY",
      .integer 0]]
  else terms

/-- The rows of a listing for a name. -/
def listedRows (database : Database) (viewColumns : SqlView → List ListedColumn) (listing name : Text) :
    List (List Cell) :=
  let columns : List ListedColumn :=
    match database.table? name, database.view? name with
    | some table, _ => columnsOf table
    | none, some view => viewColumns view
    | none, none =>
        if (Database.master? name).isSome then
          Database.masterColumns.map fun column => { name := column.1, typeName := column.2 }
        else []
  match listing.toString with
  | "pragma_table_info" => columnRows false columns
  | "pragma_table_xinfo" => columnRows true columns
  | "pragma_index_list" => ((database.table? name).map (indexRows database)).getD []
  | "pragma_index_info" | "pragma_index_xinfo" =>
      match database.index? name with
      | some index =>
          match database.table? index.table with
          | some table => termRows (listing = ("pragma_index_xinfo" : Text)) table index
          | none => []
      | none => []
  | _ => []

/-- The rows of a setting that follows from what the database holds. -/
def settingRows? (database : Database) (name : Text) : Option (List (List Cell)) :=
  match name.toString with
  | "pragma_page_count" => some [[.integer database.pageCount]]
  | "pragma_freelist_count" => some [[.integer database.freePages.length]]
  | "pragma_schema_version" => some [[.integer database.version]]
  | _ => none

/-- The rows of a table for some values, with the values behind their cells. -/
def rowsFor (table : VirtualTable) (database : Database)
    (viewColumns : SqlView → List ListedColumn) (values : List Cell) :
    Except SqlRefusal (List (List Cell)) := do
  let most := table.given.length
  if most < values.length then
    throw (.other (("too many arguments on " : Text) ++ table.name ++ "() - max " ++
      Text.ofNat most))
  let isTree := table.name = ("json_tree" : Text)
  let rows ←
    if isTree || table.name = ("json_each" : Text) then JsonFunction.rows isTree values
    else if takesName table.name && !values.isEmpty then
      let isHere : Bool := (values[1]?).all fun schema =>
        Database.isMain schema.toText?
      pure (if isHere then
          listedRows database viewColumns table.name ((values.headD .null).toText?.getD [])
        else [])
    else pure ((settingRows? database table.name).getD table.rows)
  let absent : List Cell := if most = 2 && !takesName table.name then [.null, .text "$"] else [.null, .null]
  let shown := values ++ (absent.take most).drop values.length
  return rows.map fun row => row ++ shown

end VirtualTable

/-!
## What expressions can see

An expression is evaluated among rows: those of the sources of its query, and around them those of
the queries that hold it.  A column is named by itself, or with the name of its table; the inner
rows go before the outer ones.
-/

structure ScopeColumn where
  name : Text
  /-- The affinity, which values that are calculated do not have. -/
  affinity : Option Affinity := none
  collation : Collation := .binary
  /-- Whether the column is joined with one of the same name in front of it. -/
  repeated : Bool := false
  /-- Whether the column is only shown where it is named. -/
  hidden : Bool := false
  /-- The name of the type of the column that is shown. -/
  typeName : Text := []
deriving Inhabited

structure ScopeTable where
  name : Text
  columns : List ScopeColumn
  /-- Whether the table is one that the database keeps. -/
  kept : Bool := false
  /-- Whether its rows can be named by their numbers. -/
  hasIds : Bool := false
deriving Inhabited

structure ScopeRow where
  table : ScopeTable
  cells : List Cell
  id : Option Int := none
deriving Inhabited

/-- A row of each source of a query. -/
abbrev Frame := List ScopeRow

/-- A column that a name stands for, and its value. -/
structure FoundColumn where
  column : ScopeColumn
  cell : Cell

namespace ScopeTable

/-- The scope of a table of the database under a name. -/
def ofTable (table : SqlTable) (name : Text) : ScopeTable :=
  { name, kept := true, hasIds := table.hasIds
    columns := table.columns.map fun column =>
      { name := column.name, affinity := some column.affinity, collation := column.collation
        typeName := column.listedType } }

/-- A row of which nothing is known. -/
def unknownRow (table : ScopeTable) : ScopeRow :=
  { table, cells := table.columns.map fun _ => .null, id := none }

/-- Whether names in front of a column can stand for the table. -/
def isNamed (table : ScopeTable) : List Text → Bool
  | [] => true
  | [name] => sameName table.name name
  | [database, name] => table.kept && sameName database "main" && sameName table.name name
  | _ => false

end ScopeTable

namespace ScopeRow

/-- The columns of a row with a name. -/
def matching (row : ScopeRow) (name : Text) (all : Bool) : List FoundColumn :=
  ((row.table.columns.zip row.cells).filter fun entry =>
    sameName entry.1.name name && (all || !entry.1.repeated)).map fun entry =>
      { column := entry.1, cell := entry.2 }

end ScopeRow

namespace Frame

/-- Names for the number of a row. -/
def idNames : List Text := ["rowid", "oid", "_rowid_"]

/-- What a path of names stands for among the rows of one query. -/
def find? (frame : Frame) (path : List Text) : Except SqlRefusal (Option FoundColumn) :=
  let name := path.getLastD []
  let rows := frame.filter fun row => row.table.isNamed path.dropLast
  match rows.flatMap fun row => row.matching name (1 < path.length) with
  | [found] => .ok (some found)
  | _ :: _ :: _ => .error (.ambiguousColumn path)
  | [] =>
      match rows with
      | [row] =>
          if row.table.hasIds && idNames.contains name.toAsciiLower then
            .ok (some
              { column := { name, affinity := some .integer }
                cell := (row.id.map Cell.integer).getD .null })
          else .ok none
      | _ => .ok none

end Frame

/-- Rows under columns: what a query gives. -/
structure ResultTable where
  columns : List ScopeColumn
  rows : List (List Cell)
deriving Inhabited

/-- The first cell that cannot be read as text, with the name of its column. -/
def ResultTable.firstStray? (table : ResultTable) : Option (Text × Cell) :=
  table.rows.findSome? fun row =>
    ((table.columns.map ScopeColumn.name).zip row).find? fun entry => entry.2.isStray

/-- A table that is known by a name within a query. -/
structure SharedTable where
  name : Text
  table : ResultTable
deriving Inhabited

/-- What surrounds an expression. -/
structure Surroundings where
  database : Database
  parameters : List (Text × Cell) := []
  /-- Whether only the form of the expression is looked at, with all values missing. -/
  checking : Bool := false
  /-- Where the expression stands, if it is restricted there. -/
  place : Option RestrictedPlace := none
  /-- The rows in scope, the innermost first. -/
  frames : List Frame := []
  /-- Names for the values that the innermost query gives. -/
  aliases : List (Text × SqlExpression) := []
  /-- The rows that aggregates are over. -/
  group : Option (List Frame) := none
  /-- Whether the expression is a condition on the rows that aggregates are over. -/
  inCondition : Bool := false
  shared : List SharedTable := []
  /-- The views that are being evaluated. -/
  views : List Text := []
  inTrigger : Bool := false
  /-- Whether the expression is part of a definition, which names its tables in full. -/
  defined : Bool := false

namespace Surroundings

/-- The surroundings of an expression on one row. -/
def within (around : Surroundings) (frame : Frame) : Surroundings :=
  { around with frames := frame :: around.frames, aliases := [], group := none }

/-- What a path of names stands for among the rows in scope, those of the innermost query left out
or not. -/
def findOuter? (path : List Text) : List Frame → Except SqlRefusal (Option FoundColumn)
  | [] => .ok none
  | frame :: frames => do
      match ← frame.find? path with
      | some found => return some found
      | none => findOuter? path frames

/-- What a path of names stands for: a column, or the expression with such an alias. -/
def find? (around : Surroundings) (path : List Text) :
    Except SqlRefusal (Option (FoundColumn ⊕ SqlExpression)) :=
  match around.frames with
  | [] => .ok none
  | frame :: frames => do
      match ← frame.find? path with
      | some found => return some (.inl found)
      | none =>
          let otherName : Option (Text × SqlExpression) :=
            match path with
            | [name] => around.aliases.find? fun entry => sameName entry.1 name
            | _ => none
          match otherName with
          | some (_, value) => return some (.inr value)
          | none => return (← findOuter? path frames).map .inl

/-- A path of names as it counts at its place: some rules do not look at the database. -/
def pathOf (around : Surroundings) (path : List Text) : List Text :=
  if path.length = 3 && (around.place = some .checks || around.place = some .partialIndexes) then
    path.drop 1
  else path

/-- Refuses what must not stand at a restricted place. -/
def refuse (around : Surroundings) (what : Prohibited) : Except SqlRefusal Unit :=
  match around.place with
  | some place => .error (.prohibited what place)
  | none => .ok ()

end Surroundings

end EventForge
