import EventForge.Sql.Catalog
import EventForge.Sql.Change
import EventForge.Sql.Constraint
import EventForge.Sql.Reading.Statement

/-!
# Connections

A connection executes statements given as text, with values bound to their parameters.  A statement
is checked before values are bound.  A closed connection refuses everything.
-/

namespace EventForge

/-!
## Statistics

The database can note how many rows its tables have, and how well its indexes tell them apart.  The
notes are kept in a table of their own.
-/

namespace Statistics

/-- The table of notes: the table, the index, and the numbers. -/
def table : SqlTable :=
  { name := "sqlite_stat1"
    columns := [{ name := "tbl", typeName := [] }, { name := "idx", typeName := [] },
      { name := "stat", typeName := [] }] }

/-- How many rows have the same values on average, rounded up. -/
def average (count distinct : Nat) : Nat :=
  let found := (count + distinct - 1) / distinct
  if found = 2 && count * 10 ≤ distinct * 11 then 1 else found

/-- How many keys differ in their first parts of a length. -/
def distinctCount (index : SqlIndex) (length : Nat) (keys : List (List Cell)) : Nat :=
  let same (first second : List Cell) : Bool :=
    (index.terms.zip (first.zip second)).all fun entry =>
      entry.2.1.sameBy entry.1.collation entry.2.2
  let parts := keys.map fun key => key.take length
  (parts.foldl (fun found part => if found.any (same part) then found else part :: found) []).length

/-- The note on an index of which some rows are covered. -/
def ofIndex (found : SqlTable) (index : SqlIndex) : Except SqlRefusal (Option (List Cell)) := do
  let keys ← found.rows.filterMapM (found.indexKey? index)
  if keys.isEmpty then return none
  let averages := (List.range index.terms.length).map fun position =>
    Text.ofNat (average keys.length (distinctCount index (position + 1) keys))
  return some [.text found.name, .text index.name,
    .text (Text.join " " (Text.ofNat keys.length :: averages))]

/-- The notes on a table and its indexes. -/
def ofTable (database : Database) (found : SqlTable) : Except SqlRefusal (List (List Cell)) := do
  let indexes := database.indexesOf found.name
  let notes ← indexes.filterMapM (ofIndex found)
  if found.rows.isEmpty || indexes.any fun index => index.condition.isNone then return notes
  return [.text found.name, .null, .text (Text.ofNat found.rows.length)] :: notes

end Statistics

namespace Database

/-- The tables that notes are to be taken on: one, or that of an index, or all. -/
def analyzed (database : Database) (name : Option ObjectName) : Except SqlRefusal (List SqlTable) :=
  let all := database.tables.filter fun table => !isReserved table.name
  match name with
  | none => .ok all
  | some object =>
      let owner := (database.index? object.name).map SqlIndex.table
      if object.database.isNone && sameName object.name "main" then .ok all
      else if !isMain object.database then .error (.noDatabase (object.database.getD []))
      else
        match database.table? (owner.getD object.name) with
        | some table => .ok (if isReserved table.name then [] else [table])
        | none =>
            if (database.view? object.name).isSome || (master? object.name).isSome ||
                (virtual? object.name).isSome then
              .ok []
            else .error (.noObject .table object.shown)

/-- Notes how many rows tables have. -/
def analyze (database : Database) (name : Option ObjectName) : Except SqlRefusal Database := do
  let tables ← database.analyzed name
  let notes ← tables.mapM (Statistics.ofTable database)
  let isOld (row : SqlRow) : Bool :=
    match row.cells with
    | .text name :: _ => tables.any fun table => table.name = name
    | _ => false
  let database :=
    if (database.table? Statistics.table.name).isSome then database
    else database.addTable Statistics.table []
  return database.update Statistics.table.name fun kept =>
    notes.flatten.foldl (fun kept cells =>
      { kept with rows := SqlTable.addRow { id := kept.lastId + 1, cells } kept.rows })
      { kept with rows := kept.rows.filter fun row => !isOld row }

end Database

/-!
## Statements on a connection
-/

namespace Database

/-- The columns of a table or view of which rows can be given, none if there is no such table. -/
def columnNames (database : Database) (name : Text) : Except SqlRefusal (List Text) :=
  match database.table? name, database.view? name with
  | some table, _ => .ok (table.givenColumns.map fun column => column.name)
  | none, some view => do
      return (← database.viewTable view).columns.map fun column => column.name
  | none, none =>
      if (master? name).isSome then .ok (masterColumns.map fun column => column.1)
      else .ok (((virtual? name).map VirtualTable.columns).getD [])

/-- The database without its rows. -/
def withoutRows (database : Database) : Database :=
  { database with tables := database.tables.map fun table => { table with rows := [] } }

/-- Performs a statement that defines something. -/
def define (database : Database) (parameters : List (Text × Cell)) (checking : Bool)
    (statement : Statement) : Except SqlRefusal Database :=
  match statement with
  | .createTable text => database.createTable text
  | .createTableAs temporary ifAbsent name query =>
      database.createTableAs temporary ifAbsent name parameters checking query
  | .createIndex text => database.createIndex text
  | .createView temporary ifAbsent name columns query =>
      database.createView temporary ifAbsent name columns query
  | .createTrigger text => database.createTrigger text
  | .drop kind ifPresent name => database.drop kind ifPresent name
  | .addColumn table elements broken isOpen =>
      database.addColumn table elements broken isOpen
  | .dropColumn table column => database.dropColumn table column
  | .renameTable table newName => database.renameTable table newName
  | .renameColumn table column newName => database.renameColumn table column newName
  | .analyze name => database.analyze name
  | .tableInfo _ | .rows _ | .idle => .ok database

/-- Refuses a statement that cannot be performed, whatever rows there are.  What a change breaks
shows only when it is performed. -/
def prepare (database : Database) (statement : Statement) : Except SqlRefusal Unit := do
  match statement with
  | .rows statement =>
      let _ ← database.performOnRows [] true statement
  | statement =>
      match database.withoutRows.define [] true statement with
      | .ok _ | .error (.brokenBy _ _ _ _) | .error (.malformed _ _) => return
      | .error fault => throw fault

/-- Performs a statement: the rows that it gives, and the database after it. -/
def perform (database : Database) (parameters : List (Text × Cell)) (statement : Statement) :
    Except SqlRefusal (List (List Cell) × Database) := do
  match statement with
  | .rows statement => database.performOnRows parameters false statement
  | .tableInfo table =>
      return ((← database.columnNames table).map fun name => [.text name], database)
  | statement => return ([], ← database.define parameters false statement)

end Database

structure Connection where
  database : Database
  closed : Bool := false
  /-- Whether what was opened is no database. -/
  foreign : Bool := false
deriving Inhabited

namespace Connection

/-- The cell that a value is bound as, at its position among the parameters. -/
def bind (position : Nat) (value : Document) : Except SqlFault Cell :=
  match value with
  | .null => .ok .null
  | .bool value => .ok (.integer (if value then 1 else 0))
  | .integer value => if Cell.inRange value then .ok (.integer value) else .error .integerRange
  | .float value => .ok (if value.isNaN then .null else .real value)
  | .text value =>
      match Utf8.encode value with
      | .ok _ => .ok (.text value)
      | .error error => .error (.encoding error)
  | .bytes value => .ok (.blob value)
  | .date value => .ok (.text value.text)
  | .moment value => .ok (.text value.text)
  | other => .error (.refused (.unsupported position other.kindName))

/-- Values under the names of their parameters, which are their positions. -/
def bindings (values : List Document) : Fields Document :=
  (values.zipIdx 1).map fun entry => (Text.ofNat entry.2, entry.1)

/-- Binds values to parameters, from a position on. -/
def bindAll (values : Fields Document) (position : Nat) :
    List (Option Text) → Except SqlFault (List (Text × Cell))
  | [] => .ok []
  | none :: _ => .error (.refused (.namelessParameter position))
  | some name :: names => do
      match values.get? name with
      | none => throw (.refused (.unboundParameter name))
      | some value =>
          let cell ← bind position value
          let others ← bindAll values (position + 1) names
          return (name, cell) :: others

/-- The value that a cell reads as. -/
def documentOf : Cell → Document
  | .null => .null
  | .integer value => .integer value
  | .real value => .float value
  | .text value => .text value
  | .blob value => .bytes value

/-- Executes a statement with values for its parameters by their names: its rows, and the connection
after it. -/
def execute (connection : Connection) (statement : Text) (values : Fields Document) :
    Except SqlFault (List (List Document) × Connection) := do
  if connection.closed then throw (.refused .closed)
  if statement.contains (0 : CodePoint) then throw (.refused .nullCharacter)
  if connection.foreign then throw (.refused .notADatabase)
  let first ← (FirstStatement.ofText statement).mapError .refused
  (connection.database.prepare first.statement).mapError .refused
  if first.isFollowed then throw (.refused .severalStatements)
  if values.isEmpty && !first.parameters.isEmpty then
    throw (.refused (.bindingCount first.parameters.length 0))
  let bound ← bindAll values 1 first.parameters
  let (rows, database) ← (connection.database.perform bound first.statement).mapError .refused
  let recorded := connection.database.recorded first.tokens first.statement database
  return (rows.map (·.map documentOf), { connection with database := recorded })

/-- The columns of a table, none if there is no such table. -/
def columns (connection : Connection) (table : Text) : Except SqlFault (List Text) := do
  let (rows, _) ← connection.execute (("PRAGMA table_info(" : Text) ++ table ++ ")") []
  return rows.flatten.map Document.plain

/-- What the database holds, by kinds and names; tables come with their columns. -/
def catalog (connection : Connection) : Except SqlFault (List (CatalogEntry × List Text)) :=
  if connection.closed then .error (.refused .closed)
  else
    connection.database.catalog.mapM fun entry => do
      if entry.kind ≠ .table then return (entry, [])
      return (entry, ← connection.columns entry.name)

/-- Whether there is an index with a name, in any case. -/
def hasIndex (connection : Connection) (name : Text) : Except SqlFault Bool :=
  if connection.closed then .error (.refused .closed)
  else .ok (connection.database.index? name).isSome

def close (connection : Connection) : Connection := { connection with closed := true }

end Connection

end EventForge
