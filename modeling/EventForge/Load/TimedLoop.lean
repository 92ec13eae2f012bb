import EventForge.Load.Loop
import EventForge.Log

/-!
# Loops in time

A task runs step after step at a given pace, and a loop is a task that works until it is stopped.
-/

namespace EventForge

/-!
## Tasks

A task runs step after step at a given pace.
-/

/-!
## Cadence

A loop wakes for its next operation or its next report, whichever comes first.  A deadline that was
reached moves on by its interval; if that is over too, what was missed is dropped and the interval
counts from the present.
-/

structure Cadence where
  interval : Rat
  statsInterval : Rat
  nextOperation : Instant
  nextReport : Instant
deriving DecidableEq

namespace Cadence

/-- The cadence of a loop that starts now. -/
def start (now : Instant) (interval statsInterval : Rat) : Cadence :=
  { interval, statsInterval, nextOperation := now + interval, nextReport := now + statsInterval }

/-- The earlier deadline. -/
def deadline (cadence : Cadence) : Instant := cadence.nextOperation.earlier cadence.nextReport

/-- The deadline after one that was reached at `now`. -/
def advance (deadline interval now : Rat) : Rat :=
  if deadline + interval ≤ now then now + interval else deadline + interval

/-- Whether an operation is due. -/
def operationDue (cadence : Cadence) (now : Instant) : Bool := cadence.nextOperation ≤ now

/-- Whether a report is due. -/
def reportDue (cadence : Cadence) (now : Instant) : Bool := cadence.nextReport ≤ now

/-- The cadence after waking at `now`. -/
def wake (cadence : Cadence) (now : Instant) : Cadence :=
  { cadence with
    nextOperation :=
      if cadence.operationDue now then advance cadence.nextOperation cadence.interval now
      else cadence.nextOperation
    nextReport :=
      if cadence.reportDue now then advance cadence.nextReport cadence.statsInterval now
      else cadence.nextReport }

end Cadence

/-!
## Loops at work

A loop at work wakes at the deadlines of its cadence.  Each time it performs at most one operation
and makes at most one report.  A failure that is no error of storage or retrieval ends it on the
spot.
-/

structure LoopTask (EventType : Type) where
  loop : TypedLoop EventType
  interval : Span
  cadence : Cadence

/-- What a loop did when it woke. -/
structure Awakening (EventType World : Type) where
  task : LoopTask EventType
  world : World
  /-- Why its operation failed, if it did. -/
  fault : Option OperationFault := none
  /-- The counters that it reported, if it did. -/
  report : Option LoopStats := none

namespace LoopTask

variable {EventType World : Type}

/-- A loop that starts to work now. -/
def start (now : Instant) (interval statsInterval : Span) (loop : TypedLoop EventType) :
    LoopTask EventType :=
  { loop, interval, cadence := Cadence.start now interval.seconds statsInterval.seconds }

/-- The operation of a loop that woke at `now`, if one is due. -/
def operate (tick : Ticker EventType World) (clock : Clock) (now : Instant) (world : World)
    (task : LoopTask EventType) : Option OperationFault × TypedLoop EventType × World :=
  if task.cadence.operationDue now then tick clock world task.loop
  else (none, task.loop, world)

/-- What a loop does that woke at `now`. -/
def wake (tick : Ticker EventType World) (clock : Clock) (now : Instant) (world : World)
    (task : LoopTask EventType) : Awakening EventType World :=
  match task.operate tick clock now world with
  | (some (.unexpected fault), loop, world) =>
      { task := { task with loop }, world, fault := some (.unexpected fault) }
  | (fault, loop, world) =>
      let cadence := task.cadence.wake now
      if task.cadence.reportDue now then
        { task := { task with loop := loop.report.2, cadence }, world, fault
          report := some loop.report.1 }
      else { task := { task with loop, cadence }, world, fault }

/-- The entry of the log when a loop starts to work. -/
def startEntry (now : Instant) (task : LoopTask EventType) : LogEntry :=
  LogEntry.info now (LoadLoop.startMessage task.loop.kind task.interval)

/-- The entry of the log when a loop is stopped. -/
def stopEntry (now : Instant) (reason : Text) (task : LoopTask EventType) : LogEntry :=
  LogEntry.info now (LoadLoop.stopMessage task.loop.kind reason)

/-- The entry of the log for a report. -/
def reportEntry (now : Instant) (task : LoopTask EventType) (stats : LoopStats) : LogEntry :=
  LogEntry.info now (LoadLoop.reportMessage task.loop.kind stats)

end LoopTask

/-!
## One loop in time

A loop works alone until it is cancelled, or dies of a failure that it does not report.  An
operation may take time, which its cadence makes up for by dropping what was missed.  A cancellation
is seen while the loop sleeps; a loop that is late does not sleep, and takes one more step first.
-/

/-- How an operation goes: the seconds it takes, and its rows unless it fails. -/
structure Trial where
  takes : Rat := 0
  fails : Bool := false
  rows : Nat := 0
deriving Inhabited

/-- An operation that a loop began, and when. -/
structure LoopCall where
  time : Instant
  operation : LoadOperation

/-- A world in which operations go as they are told to: the time, how the next operations go, and
those that were begun. -/
structure Rehearsal where
  now : Instant := 0
  trials : List Trial
  calls : List LoopCall := []

namespace Rehearsal

/-- The failure of an operation. -/
def failure : LoadOperation → Fault
  | .store event => StorageError.toFault ⟨event.eventClass.table, "insert failed"⟩
  | .query event low high =>
      RetrievalError.toFault
        ⟨event.eventClass.table, "query failed", .integer low, .integer high⟩

/-- The rows that a successful operation counts. -/
def rowsOf (operation : LoadOperation) (trial : Trial) : Nat :=
  match operation with
  | .store _ => 1
  | .query _ _ _ => trial.rows

/-- Performs an operation as the next trial says. -/
def perform : Performer Rehearsal := fun world operation =>
  let trial := world.trials.headD default
  let world :=
    { now := world.now + trial.takes, trials := world.trials.tail
      calls := world.calls ++ [⟨world.now, operation⟩] }
  if trial.fails then (.error (.reported (failure operation)), world)
  else (.ok (rowsOf operation trial), world)

end Rehearsal

/-- What became of a run so far. -/
structure TimedLoop where
  task : LoopTask EventClass
  world : Rehearsal
  /-- The errors put on the queue, with their times. -/
  errors : List (Instant × Fault) := []
  log : List LogEntry := []
  /-- The failure that ended the run, if one did. -/
  death : Option Fault := none

namespace TimedLoop

/-- When a run is cancelled, and with what reason. -/
structure Cancellation where
  time : Instant
  reason : Option Text

/-- One step of a loop that woke at `now`. -/
def step (clock : Clock) (now : Instant) (run : TimedLoop) : TimedLoop :=
  let woken := run.task.wake (LoadLoop.tick Rehearsal.perform) clock now { run.world with now }
  { task := woken.task
    world := woken.world
    errors :=
      match woken.fault with
      | some (.reported fault) => run.errors ++ [(woken.world.now, fault)]
      | some (.unexpected _) | none => run.errors
    log :=
      match woken.report with
      | some stats => run.log ++ [woken.task.reportEntry woken.world.now stats]
      | none => run.log
    death :=
      match woken.fault with
      | some (.unexpected fault) => some fault
      | some (.reported _) | none => run.death }

/-- Steps until the cancellation is seen.  `last` says that it waits already. -/
def steps (clock : Clock) (cancelled : Instant) : Nat → Bool → TimedLoop → TimedLoop
  | 0, _, run => run
  | fuel + 1, last, run =>
      let now := run.world.now
      let deadline := run.task.cadence.deadline
      let asleep := now < deadline
      if run.death.isSome then run
      else if last || (asleep && cancelled ≤ deadline) then
        { run with world := { run.world with now := max now cancelled } }
      else
        steps clock cancelled fuel (!asleep && cancelled ≤ now)
          (run.step clock (max now deadline))

/-- A bound for the number of steps: each serves a deadline that was set before the cancellation. -/
def stepBound (cancelled : Instant) (cadence : Cadence) : Nat :=
  (cancelled / cadence.interval).floor.toNat + (cancelled / cadence.statsInterval).floor.toNat + 4

/-- The run of a loop from time zero until it is cancelled or dies. -/
def run (clock : Clock) (interval statsInterval : Span) (trials : List Trial)
    (cancellation : Cancellation) (loop : LoadLoop) : TimedLoop :=
  let task := LoopTask.start 0 interval statsInterval loop
  let begun : TimedLoop := { task, world := { trials }, log := [task.startEntry 0] }
  let ended :=
    steps clock cancellation.time (stepBound cancellation.time task.cadence) false begun
  if ended.death.isSome then ended
  else
    { ended with
      log := ended.log ++
        [ended.task.stopEntry ended.world.now (cancellation.reason.getD "cancelled")] }

end TimedLoop

end EventForge
