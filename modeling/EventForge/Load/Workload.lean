import EventForge.Load.Loop
import EventForge.Store.Migration
import EventForge.Text.Case
import EventForge.Text.Quoted

/-!
# Workloads

Which loops a run has, and the events that they work on.
-/

namespace EventForge

/-!
## Run modes

A run has a writer, a reader or both.
-/

inductive RunMode
  | writer
  | reader
  | both
deriving DecidableEq, Repr

namespace RunMode

def all : List RunMode := [.writer, .reader, .both]

def name : RunMode → Text
  | .writer => "writer"
  | .reader => "reader"
  | .both => "both"

/-- The mode with a name in any case. -/
def ofText? (text : Text) : Option RunMode := all.find? fun mode => mode.name == text.lower

/-- The refusal of a name that no mode has. -/
def invalid (text : Text) : Fault :=
  Fault.ofValue (("Invalid run mode '" : Text) ++ text ++ "'. Valid modes: " ++
    Text.bracketed (all.map fun mode => Quoted.ofText mode.name))

/-- The mode with a name, which must be one. -/
def ofText (text : Text) : Except Fault RunMode :=
  match ofText? text with
  | some mode => .ok mode
  | none => .error (invalid text)

/-- Whether a mode has a writer. -/
def writes (mode : RunMode) : Bool := mode ≠ .reader

/-- Whether a mode has a reader. -/
def reads (mode : RunMode) : Bool := mode ≠ .writer

/-- The seed of the reader; beside a writer it has one of its own. -/
def readerSeed (mode : RunMode) (seed : Int) : Int :=
  if mode = .both then seed + 1 else seed

end RunMode

/-!
## Workloads

A workload is what load is run with: the event types, and how they are brought into a database, stored
and queried.  Beside the workspace it can keep something of its own.
-/

/-- What became of a migration. -/
structure Migrated (World : Type) where
  /-- The statements that took effect and are told about. -/
  applied : List Text
  /-- How many changes were made, or why the migration failed. -/
  changes : Except Fault Nat
  world : World

/-- `Own` is what the event types keep beside the workspace. -/
structure Workload (EventType Own : Type) where
  /-- Brings a database up to date. -/
  migrate : DatabasePlace → Workspace × Own → Migrated (Workspace × Own)
  /-- The schema source that is watched, and the event types in the order of their names. -/
  prepare : Workspace × Own → Except Fault (Text × List (Text × EventType)) × Workspace × Own
  /-- Performs the operations of loops. -/
  tick : DatabasePlace → Ticker EventType (Workspace × Own)

namespace EventModule

/-- Brings the tables of a module up to date. -/
def migrate (module : EventModule) (place : DatabasePlace) (world : Workspace × Unit) :
    Migrated (Workspace × Unit) :=
  let outcome := Migration.migrate (world.1.connection place) module
  { applied := outcome.applied
    changes :=
      match outcome.error with
      | some error => .error error.toFault
      | none => .ok outcome.applied.length
    world := (world.1.keep place outcome.connection.database, ()) }

/-- The source of a module and its event types. -/
def prepare (module : EventModule) : Except Fault (Text × List (Text × EventClass)) :=
  match module.source with
  | none => .error (Fault.ofValue "Events module does not record its schema source")
  | some source => .ok (source, LoadLoop.sorted module.constructors)

/-- Performs the next operation of a loop on the database at a place. -/
def tick (place : DatabasePlace) : Ticker EventClass (Workspace × Unit) := fun clock world loop =>
  let (fault, loop, workspace) := LoadLoop.tick (Workspace.perform place) clock world.1 loop
  (fault, loop, (workspace, ()))

/-- The workload of a module. -/
def workload (module : EventModule) : Workload EventClass Unit :=
  { migrate := module.migrate
    prepare := fun world => (module.prepare, world)
    tick }

end EventModule

end EventForge
