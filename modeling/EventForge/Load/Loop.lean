import EventForge.Log
import EventForge.Store.Event
import EventForge.Store.Workspace

/-!
# Load loops

A writer stores random events and a reader runs random queries.  Each loop has its own random source
and counts its operations and the rows they wrote or read.  Event types are chosen from their names
in order, so that a seed always gives the same choices.
-/

namespace EventForge

inductive LoopKind
  | writer
  | reader
deriving DecidableEq, Repr, Inhabited

namespace LoopKind

def name : LoopKind → Text
  | .writer => "writer"
  | .reader => "reader"

/-- The name at the beginning of a sentence. -/
def title : LoopKind → Text
  | .writer => "Writer"
  | .reader => "Reader"

end LoopKind

/-- What a loop did since its last report. -/
structure LoopStats where
  operations : Nat := 0
  rows : Nat := 0
deriving DecidableEq, Repr, Inhabited

/-- A loop over event types of some kind. -/
structure TypedLoop (EventType : Type) where
  kind : LoopKind
  source : RandomSource
  /-- The event types by name, in the order of the names. -/
  types : List (Text × EventType)
  stats : LoopStats := {}

/-- A loop over event types that are declared. -/
abbrev LoadLoop := TypedLoop EventClass

/-- What a loop does at one of its deadlines. -/
inductive LoadOperation
  | store (event : Event)
  | query (event : Event) (low high : Int)

/-- Why an operation failed: with an error that the loop reports, or with one that ends it. -/
inductive OperationFault
  | reported (fault : Fault)
  | unexpected (fault : Fault)

namespace TypedLoop

variable {EventType : Type}

/-- A loop over event types in the order of their names, of which there must be at least one. -/
def ofTypes (kind : LoopKind) (types : List (Text × EventType)) (seed : Int) :
    Except Fault (TypedLoop EventType) :=
  if types.isEmpty then .error (Fault.ofValue "No event types to choose from")
  else .ok { kind, source := RandomSource.ofSeed seed, types }

def names (loop : TypedLoop EventType) : List Text := loop.types.map (·.1)

/-- A random event type. -/
def choose [Inhabited EventType] (loop : TypedLoop EventType) :
    (Text × EventType) × TypedLoop EventType :=
  let (index, source) := loop.source.below loop.types.length
  (loop.types.getD index default, { loop with source })

/-- Draws from the source of a loop. -/
def draw {Value : Type} (drawing : Generator.Drawing Value) (loop : TypedLoop EventType) :
    Except Fault Value × TypedLoop EventType :=
  let (outcome, source) := drawing.run.run loop.source
  (outcome, { loop with source })

/-- Counts an operation that succeeded with a number of rows. -/
def count (rows : Nat) (loop : TypedLoop EventType) : TypedLoop EventType :=
  { loop with
    stats := { operations := loop.stats.operations + 1, rows := loop.stats.rows + rows } }

/-- Gives the counters and begins to count anew. -/
def report (loop : TypedLoop EventType) : LoopStats × TypedLoop EventType :=
  (loop.stats, { loop with stats := {} })

end TypedLoop

namespace LoadLoop

/-- Event types in the order of their names. -/
def sorted (constructors : List (Text × EventClass)) : List (Text × EventClass) :=
  constructors.mergeSort fun first second => Text.le first.1 second.1

/-- A loop over some event types, of which there must be at least one. -/
def make (kind : LoopKind) (constructors : List (Text × EventClass)) (seed : Int) :
    Except Fault LoadLoop :=
  TypedLoop.ofTypes kind (sorted constructors) seed

/-- A random event of a random type. -/
def newEvent (clock : Clock) (loop : LoadLoop) : Except Fault Event × LoadLoop :=
  let ((_, eventClass), loop) := loop.choose
  loop.draw (Event.random eventClass clock)

/-- Seconds by which a query begins before the earlier of its two times. -/
def windowPad : Int := 120

/-- A random range of times for a query. -/
def randomWindow (clock : Clock) : Generator.Drawing (Int × Int) := do
  let first ← Generator.randomTime clock
  let second ← Generator.randomTime clock
  return (min first second - windowPad, max first second)

/-- A random event and the range of a random query of its type. -/
def newQuery (clock : Clock) (loop : LoadLoop) : Except Fault (Event × Int × Int) × LoadLoop :=
  match loop.newEvent clock with
  | (.error fault, loop) => (.error fault, loop)
  | (.ok event, loop) =>
      let (window, loop) := loop.draw (randomWindow clock)
      (window.map fun window => (event, window), loop)

/-- The next operation of a loop. -/
def nextOperation (clock : Clock) (loop : LoadLoop) : Except Fault LoadOperation × LoadLoop :=
  match loop.kind with
  | .writer =>
      let (event, loop) := loop.newEvent clock
      (event.map .store, loop)
  | .reader =>
      let (query, loop) := loop.newQuery clock
      (query.map fun query => .query query.1 query.2.1 query.2.2, loop)

/-- The entry of the log that reports the counters of a loop. -/
def reportMessage (kind : LoopKind) (stats : LoopStats) : Text :=
  match kind with
  | .writer => ("wrote " : Text) ++ Text.ofNat stats.rows ++ " events since last report"
  | .reader =>
      ("ran " : Text) ++ Text.ofNat stats.operations ++ " queries since last report, read " ++
        Text.ofNat stats.rows ++ " events"

/-- The entry of the log when a loop starts. -/
def startMessage (kind : LoopKind) (interval : Span) : Text :=
  ("Starting " : Text) ++ kind.name ++ " loop, one operation every " ++ interval.shown ++ "s"

/-- The entry of the log when a loop is stopped. -/
def stopMessage (kind : LoopKind) (reason : Text) : Text :=
  kind.title ++ " loop stopped: " ++ reason

end LoadLoop

/-- How a loop performs its next operation in a world: why that failed, if it did, and the loop and
the world after it. -/
abbrev Ticker (EventType World : Type) :=
  Clock → World → TypedLoop EventType → Option OperationFault × TypedLoop EventType × World

/-- How operations are performed in a world: the rows that an operation wrote or read, or why it
failed, and the world after it. -/
abbrev Performer (World : Type) := World → LoadOperation → Except OperationFault Nat × World

namespace LoadOperation

/-- Performs an operation on a connection. -/
def perform : Performer Connection := fun connection operation =>
  match operation with
  | .store event =>
      match event.store connection with
      | .ok connection => (.ok 1, connection)
      | .error error => (.error (.reported error.toFault), connection)
  | .query event low high =>
      match Event.retrieve event.eventClass connection (.integer low) (.integer high) with
      | .ok found => (.ok found.length, connection)
      | .error (.retrieval error) => (.error (.reported error.toFault), connection)
      | .error (.escaped fault) => (.error (.unexpected fault), connection)

end LoadOperation

namespace Workspace

/-- Performs the operations of loops on the database at a place. -/
def perform (place : DatabasePlace) : Performer Workspace := fun workspace operation =>
  let (result, connection) := operation.perform (workspace.connection place)
  (result, workspace.keep place connection.database)

end Workspace

namespace LoadLoop

/-- Performs the next operation of a loop and counts it if it succeeds.  If there is none, that ends
the loop. -/
def tick {World : Type} (perform : Performer World) : Ticker EventClass World :=
    fun clock world loop =>
  match nextOperation clock loop with
  | (.error fault, loop) => (some (.unexpected fault), loop, world)
  | (.ok operation, loop) =>
      match perform world operation with
      | (.ok rows, world) => (none, loop.count rows, world)
      | (.error fault, world) => (some fault, loop, world)

end LoadLoop

end EventForge
