import EventForge.Module.Basic
import EventForge.Sql.Connection
import EventForge.Text.Case

/-!
# Migration

Migration brings the tables of a database up to the event types of a module.  It makes missing
tables, adds missing columns and makes the index on the time of each table; it never removes
anything.  A database that is up to date gets no statement.
-/

namespace EventForge

/-- A table that could not be brought up to date. -/
structure MigrationError where
  table : Text
  fault : SqlFault
deriving DecidableEq, Repr

namespace MigrationError

def message (error : MigrationError) : Text :=
  ("can't migrate table " : Text) ++ error.table ++ ": " ++ error.fault.message

def toFault (error : MigrationError) : Fault :=
  { kind := .migration, message := error.message, code := some "MIGRATION_ERROR",
    details := [("table", .text error.table)] }

end MigrationError

namespace Migration

/-- What is to be brought up to date: a table, its columns with their types, and its time. -/
structure Target where
  table : Text
  columns : List (Text × Text)
  timeColumn : Text

/-- The target of an event class. -/
def Target.ofClass (eventClass : EventClass) : Target :=
  { table := eventClass.table, columns := eventClass.columnDefinitions
    timeColumn := eventClass.timeColumn }

/-- The statement that makes a table. -/
def createTableText (target : Target) : Text :=
  ("CREATE TABLE IF NOT EXISTS " : Text) ++ target.table ++ " (" ++
    Text.join ", " (target.columns.map fun column => column.1 ++ " " ++ column.2) ++ ")"

/-- The statement that adds a column. -/
def addColumnText (table : Text) (column : Text × Text) : Text :=
  ("ALTER TABLE " : Text) ++ table ++ " ADD COLUMN " ++ column.1 ++ " " ++ column.2

/-- The index on the time of a table. -/
def indexName (target : Target) : Text :=
  ("idx_" : Text) ++ target.table ++ "_" ++ target.timeColumn

/-- The statement that makes the index. -/
def createIndexText (target : Target) : Text :=
  ("CREATE INDEX IF NOT EXISTS " : Text) ++ indexName target ++ " ON " ++ target.table ++ " (" ++
    target.timeColumn ++ ")"

/-- The statements that bring the columns of a table up to date, from the columns that it has. -/
def columnPlan (existing : List Text) (target : Target) : List Text :=
  if existing.isEmpty then [createTableText target]
  else
    let present := existing.map Text.fold
    (target.columns.filter fun column => !present.contains column.1.fold).map
      (addColumnText target.table)

/-- How far a migration came: why it stopped, if it did, the statements that took effect, and the
connection after them. -/
structure Progress where
  stopped : Option SqlFault
  applied : List Text
  connection : Connection

/-- Executes statements until one is refused. -/
def applyAll (connection : Connection) : List Text → Progress
  | [] => { stopped := none, applied := [], connection }
  | statement :: statements =>
      match connection.execute statement [] with
      | .error fault => { stopped := some fault, applied := [], connection }
      | .ok (_, connection) =>
          let progress := applyAll connection statements
          { progress with applied := statement :: progress.applied }

/-- Makes the index on the time of a table if no index has its name. -/
def applyIndex (connection : Connection) (target : Target) : Progress :=
  match connection.hasIndex (indexName target) with
  | .error fault => { stopped := some fault, applied := [], connection }
  | .ok true => { stopped := none, applied := [], connection }
  | .ok false => applyAll connection [createIndexText target]

/-- Brings one table up to date. -/
def applyTarget (connection : Connection) (target : Target) : Progress :=
  match connection.columns target.table with
  | .error fault => { stopped := some fault, applied := [], connection }
  | .ok existing =>
      let progress := applyAll connection (columnPlan existing target)
      match progress.stopped with
      | some _ => progress
      | none =>
          let last := applyIndex progress.connection target
          { last with applied := progress.applied ++ last.applied }

/-- The outcome of bringing one table up to date: the statements that took effect, or the error. -/
def migrateTable (connection : Connection) (target : Target) :
    Except MigrationError (List Text) × Connection :=
  let progress := applyTarget connection target
  match progress.stopped with
  | some fault => (.error { table := target.table, fault }, progress.connection)
  | none => (.ok progress.applied, progress.connection)

/-- The outcome of a migration: the error that ended it, if there was one, the statements of all
tables that are up to date, and the connection. -/
structure Outcome where
  error : Option MigrationError
  applied : List Text
  connection : Connection

/-- Brings tables up to date, one after the other. -/
def migrateAll (connection : Connection) : List Target → Outcome
  | [] => { error := none, applied := [], connection }
  | target :: targets =>
      match migrateTable connection target with
      | (.error error, connection) => { error := some error, applied := [], connection }
      | (.ok applied, connection) =>
          let outcome := migrateAll connection targets
          { outcome with applied := applied ++ outcome.applied }

/-- Brings the tables of a module up to date. -/
def migrate (connection : Connection) (module : EventModule) : Outcome :=
  migrateAll connection (module.classes.map Target.ofClass)

end Migration

end EventForge
