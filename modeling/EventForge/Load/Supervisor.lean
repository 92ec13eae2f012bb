import EventForge.Config.Settings
import EventForge.Load.Watch
import EventForge.Load.Workload
import EventForge.Load.TimedLoop
import EventForge.Store.Retry

/-!
# Supervised runs

A run connects to its database, brings the tables up to date, and then has its loops work while a
monitor watches the schema source.  It ends at the first instant at which a shutdown is requested, a
poll differs from the baseline, an operation fails, or a task dies; of several causes at one instant
the first in this order counts.
-/

namespace EventForge

/-- What happens to a run from outside. -/
inductive OutsideAction
  | shutdown
  /-- A signal of the system, by its number, which requests a shutdown too. -/
  | signal (number : Nat)
  | files (change : FileTree → FileTree)
  /-- A statement executed by another connection to the database at a path. -/
  | statement (path text : Text)

structure ScheduledAction where
  time : Instant
  action : OutsideAction

inductive ExitStatus
  | ok
  | failed
  | schemaChanged
deriving DecidableEq, Repr

def ExitStatus.number : ExitStatus → Nat
  | .ok => 0
  | .failed => 1
  | .schemaChanged => 36

/-!
## Tasks

A run has a task for each of its loops, one that watches the schema source, and one that tells the
errors of the watch to the log.  A task works until it is told to stop, which it sees while it sleeps,
or until it dies of a failure.
-/

/-- The tasks of a run. -/
inductive TaskName
  | loop (kind : LoopKind)
  | monitor
  | monitorErrors
deriving DecidableEq, Repr

def TaskName.text : TaskName → Text
  | .loop kind => ("eventgen-" : Text) ++ kind.name
  | .monitor => "eventgen-monitor"
  | .monitorErrors => "eventgen-monitor-errors"

/-- How a task stands. -/
inductive TaskState
  | working
  /-- It is told to stop, for a reason, and has not seen it yet. -/
  | stopping (reason : Text)
  | stopped
  | died (fault : Fault)

namespace TaskState

def isWorking : TaskState → Bool
  | .working => true
  | _ => false

/-- Whether a task can still do anything. -/
def isAlive : TaskState → Bool
  | .working | .stopping _ => true
  | .stopped | .died _ => false

/-- The failure that a task died of. -/
def death? : TaskState → Option Fault
  | .died fault => some fault
  | _ => none

/-- Tells a task to stop; one that has ended does not hear it. -/
def cancel (reason : Text) : TaskState → TaskState
  | .working => .stopping reason
  | state => state

/-- Waits until a task that is told to stop has stopped. -/
def join : TaskState → TaskState
  | .stopping _ => .stopped
  | state => state

/-- The reason that a task sees when it is told to stop. -/
def reason? : TaskState → Option Text
  | .stopping reason => some reason
  | _ => none

end TaskState

/-- The work of a task, and how the task stands. -/
structure Supervised (Work : Type) where
  work : Work
  state : TaskState := .working

/-- Why a run ends. -/
inductive StopCause
  | shutdown
  | schemaChanged (path : Text)
  | operation (fault : Fault)
  /-- Tasks died, each of a failure of its own. -/
  | death (deaths : List (TaskName × Fault))

namespace StopCause

def status : StopCause → ExitStatus
  | .shutdown => .ok
  | .schemaChanged _ => .schemaChanged
  | .operation _ | .death _ => .failed

def reason : StopCause → Text
  | .shutdown => "shutdown requested"
  | .schemaChanged _ => "schema source changed"
  | .operation _ => "operation failed"
  | .death _ => "task stopped unexpectedly"

/-- The entries of the log that tell the cause. -/
def entries (now : Instant) : StopCause → List LogEntry
  | .shutdown => []
  | .schemaChanged path =>
      [LogEntry.warning now
        (("Schema source " : Text) ++ path ++ " changed, exiting for relaunch")]
  | .operation fault => [LogEntry.error now (("Operation failed: " : Text) ++ fault.message)]
  | .death deaths =>
      deaths.map fun death =>
        LogEntry.error now (("Task " : Text) ++ death.1.text ++ " stopped unexpectedly: " ++
          death.2.message)

end StopCause

/-- How a run ends: by a cause, or by a fault that ends the program. -/
abbrev RunEnd := Except Fault StopCause

/-!
## Runs

The tasks of a run tell it what happened through queues: the errors of operations, the changes of the
schema source, and the errors of watching it.
-/

/-- A run while its tasks work. -/
structure LiveRun (EventType Own : Type) where
  /-- What the clock reads. -/
  clock : Instant → Clock
  /-- Performs the operations of the loops. -/
  tick : Ticker EventType (Workspace × Own)
  workspace : Workspace
  /-- What the event types keep beside the workspace. -/
  own : Own
  /-- The database that the run is connected to, until the connection is closed. -/
  connection : Option DatabasePlace
  loops : List (Supervised (LoopTask EventType))
  monitor : Supervised Monitor
  /-- The task that tells the errors of the monitor. -/
  reporter : TaskState := .working
  checkInterval : Span
  nextPoll : Instant
  /-- The actions to come, by their times. -/
  actions : List ScheduledAction
  shutdown : Bool := false
  /-- The queue of the errors of operations. -/
  errors : List Fault := []
  /-- The queue of the changes of the schema source. -/
  changes : List Text := []
  /-- The queue of the errors of the monitor. -/
  monitorErrors : List MonitorReadError := []
  log : List LogEntry := []

/-- What an action from outside does to a workspace. -/
def OutsideAction.apply (action : OutsideAction) (workspace : Workspace) : Workspace :=
  match action with
  | .shutdown | .signal _ => workspace
  | .files change => { workspace with files := change workspace.files }
  | .statement path text => workspace.execute path text

namespace LiveRun

variable {EventType Own : Type}

/-- Takes an action from outside. -/
def act (run : LiveRun EventType Own) (now : Instant) (action : OutsideAction) :
    LiveRun EventType Own :=
  let run := { run with workspace := action.apply run.workspace }
  match action with
  | .shutdown => { run with shutdown := true }
  | .signal number =>
      { run with
        shutdown := true
        log := run.log ++ [LogEntry.info now
          (("Received signal " : Text) ++ Text.ofNat number ++ ", initiating shutdown")] }
  | .files _ | .statement _ _ => run

/-- Takes the actions that are due. -/
def actAll (now : Instant) (run : LiveRun EventType Own) : LiveRun EventType Own :=
  let due := run.actions.takeWhile fun scheduled => scheduled.time ≤ now
  let run := { run with actions := run.actions.drop due.length }
  due.foldl (fun run scheduled => run.act scheduled.time scheduled.action) run

/-- The tasks that died, and of what. -/
def deaths (run : LiveRun EventType Own) : List (TaskName × Fault) :=
  run.loops.filterMap (fun task =>
      task.state.death?.map fun fault => (.loop task.work.loop.kind, fault)) ++
    (run.monitor.state.death?.map fun fault => (TaskName.monitor, fault)).toList

/-- The fault that ends the program, if a task died of one. -/
def final? (run : LiveRun EventType Own) : Option Fault :=
  (run.deaths.find? fun death => death.2.reach = .final).map (·.2)

/-- Whether a loop wakes at an instant. -/
def isAwake (now : Instant) (task : Supervised (LoopTask EventType)) : Bool :=
  task.state.isWorking && task.work.cadence.deadline ≤ now

/-- What a loop does that wakes at an instant; the loops in front of it are done. -/
def wakeTask (now : Instant) (run : LiveRun EventType Own) (task : LoopTask EventType) :
    LiveRun EventType Own :=
  let woken := task.wake run.tick (run.clock now) now (run.workspace, run.own)
  let run :=
    { run with
      workspace := woken.world.1, own := woken.world.2
      log := run.log ++ (woken.report.map (task.reportEntry now)).toList }
  match woken.fault with
  | none => { run with loops := run.loops ++ [{ work := woken.task }] }
  | some (.reported fault) =>
      { run with loops := run.loops ++ [{ work := woken.task }], errors := run.errors ++ [fault] }
  | some (.unexpected fault) =>
      { run with loops := run.loops ++ [{ work := woken.task, state := .died fault }] }

/-- What loops do at an instant, in their order.  A fault that ends the program keeps the others from
their turns. -/
def wakeAll (now : Instant) :
    List (Supervised (LoopTask EventType)) → LiveRun EventType Own → LiveRun EventType Own
  | [], run => run
  | task :: tasks, run =>
      if isAwake now task then
        let run := run.wakeTask now task.work
        if run.final?.isSome then { run with loops := run.loops ++ tasks } else wakeAll now tasks run
      else wakeAll now tasks { run with loops := run.loops ++ [task] }

/-- Polls the schema source. -/
def poll (now : Instant) (run : LiveRun EventType Own) : LiveRun EventType Own :=
  let (monitor, outcome) :=
    run.monitor.work.poll (run.workspace.files.read run.monitor.work.path)
  { run with
    monitor := { work := monitor, state := (Monitor.death? outcome).elim .working .died }
    changes :=
      match outcome with
      | .changed _ _ => run.changes ++ [monitor.path]
      | _ => run.changes
    monitorErrors := run.monitorErrors ++ (monitor.error? outcome).toList
    log := run.log ++ (Monitor.logEntry? now outcome).toList }

/-- Tells the errors of the monitor to the log. -/
def tellErrors (now : Instant) (run : LiveRun EventType Own) : LiveRun EventType Own :=
  if run.reporter.isWorking then
    { run with
      monitorErrors := []
      log := run.log ++ run.monitorErrors.map fun error =>
        LogEntry.warning now (("Schema monitor: " : Text) ++ error.message) }
  else run

/-- The poll of an instant, if one is due. -/
def pollDue (now : Instant) (run : LiveRun EventType Own) : LiveRun EventType Own :=
  if run.monitor.state.isWorking && run.nextPoll ≤ now then
    ({ run with nextPoll := now + run.checkInterval.seconds }.poll now).tellErrors now
  else run

/-- All that happens at an instant. -/
def advance (now : Instant) (run : LiveRun EventType Own) : LiveRun EventType Own :=
  let run := run.actAll now
  let run := wakeAll now run.loops { run with loops := [] }
  if run.final?.isSome then run else run.pollDue now

/-- The first cause to end a run that its queues and tasks give, if there is one. -/
def cause? (run : LiveRun EventType Own) : Option StopCause :=
  if run.shutdown then some .shutdown
  else
    match run.changes, run.errors, run.deaths with
    | path :: _, _, _ => some (.schemaChanged path)
    | [], fault :: _, _ => some (.operation fault)
    | [], [], [] => none
    | [], [], deaths => some (.death deaths)

/-- The next instant at which something can happen, not after `limit`. -/
def nextInstant (limit : Instant) (run : LiveRun EventType Own) : Instant :=
  let times := run.nextPoll :: run.loops.map (fun task => task.work.cadence.deadline) ++
    (run.actions.head?.map fun scheduled => scheduled.time).toList
  times.foldl Instant.earlier limit

/-- The end of a run, if it ends as it is. -/
def end? (run : LiveRun EventType Own) : Option RunEnd :=
  match run.final? with
  | some fault => some (.error fault)
  | none => run.cause?.map .ok

/-- A shutdown is requested at `limit` at the latest. -/
def limited (limit now : Instant) (run : LiveRun EventType Own) : LiveRun EventType Own :=
  { run with shutdown := run.shutdown || limit ≤ now }

/-- Goes from instant to instant until the run ends, at the latest at `limit`. -/
def follow (limit : Instant) :
    Nat → LiveRun EventType Own → LiveRun EventType Own × Instant × RunEnd
  | 0, run => (run, limit, .ok .shutdown)
  | fuel + 1, run =>
      let now := run.nextInstant limit
      let run := run.advance now
      match (run.limited limit now).end? with
      | some ending => (run, now, ending)
      | none => follow limit fuel run

/-- A bound for the number of instants up to `limit`. -/
def instantBound (limit : Instant) (run : LiveRun EventType Own) : Nat :=
  let count (interval : Rat) : Nat := (limit / interval).floor.toNat + 1
  run.loops.foldl (fun sum task =>
    sum + count task.work.cadence.interval + count task.work.cadence.statsInterval) 0 +
    count run.checkInterval.seconds + run.actions.length + 2

/-- Starts the tasks; the first poll of the monitor is at once. -/
def start (now : Instant) (run : LiveRun EventType Own) : LiveRun EventType Own :=
  let entries := run.loops.map (fun task => task.work.startEntry now) ++
    [LogEntry.info now (run.monitor.work.startMessage run.checkInterval)]
  ({ run with log := run.log ++ entries }.poll now).tellErrors now

/-!
## Stopping

When a run stops, every task is told so before the first one is waited for, and the connection is
closed when none is left.
-/

/-- Tells every task to stop. -/
def cancelAll (reason : Text) (run : LiveRun EventType Own) : LiveRun EventType Own :=
  { run with
    loops := run.loops.map fun task => { task with state := task.state.cancel reason }
    monitor := { run.monitor with state := run.monitor.state.cancel reason }
    reporter := run.reporter.cancel reason }

/-- The entries of the log for the tasks that see that they are told to stop. -/
def joinEntries (now : Instant) (run : LiveRun EventType Own) : List LogEntry :=
  run.loops.filterMap (fun task => task.state.reason?.map (task.work.stopEntry now)) ++
    (run.monitor.state.reason?.map fun reason =>
      LogEntry.info now (Monitor.stopMessage reason)).toList

/-- Waits until every task has ended that is told to stop. -/
def joinAll (now : Instant) (run : LiveRun EventType Own) : LiveRun EventType Own :=
  { run with
    loops := run.loops.map fun task => { task with state := task.state.join }
    monitor := { run.monitor with state := run.monitor.state.join }
    reporter := run.reporter.join
    log := run.log ++ run.joinEntries now }

/-- The entry of the log when a run has stopped. -/
def stoppedEntry (now : Instant) (reason : Text) : LogEntry :=
  LogEntry.info now (("eventgen stopped: " : Text) ++ reason)

/-- Closes the connection. -/
def close (now : Instant) (reason : Text) (run : LiveRun EventType Own) : LiveRun EventType Own :=
  { run with connection := none, log := run.log ++ [stoppedEntry now reason] }

/-- Stops a run for a cause, which is told first. -/
def stop (now : Instant) (cause : StopCause) (run : LiveRun EventType Own) :
    LiveRun EventType Own :=
  let run := { run with log := run.log ++ cause.entries now }
  ((run.cancelAll cause.reason).joinAll now).close now cause.reason

/-- The tasks that can still do anything. -/
def alive (run : LiveRun EventType Own) : List TaskName :=
  (run.loops.filter fun task => task.state.isAlive).map
      (fun task => .loop task.work.loop.kind) ++
    (if run.monitor.state.isAlive then [.monitor] else []) ++
    (if run.reporter.isAlive then [.monitorErrors] else [])

end LiveRun

/-- What a run is made of. -/
structure RunPlan (EventType Own : Type) where
  mode : RunMode
  settings : Settings
  workload : Workload EventType Own
  /-- What the clock reads. -/
  clock : Instant → Clock

/-- What became of a run. -/
structure RunReport (EventType Own : Type) where
  result : Except Fault ExitStatus
  time : Instant
  log : List LogEntry
  workspace : Workspace
  /-- What the event types kept. -/
  own : Own
  /-- The run as it was left, if its tasks were started. -/
  left : Option (LiveRun EventType Own) := none

namespace RunReport

variable {EventType Own : Type}

/-- The loops that were made, with the names of their event types. -/
def loops (report : RunReport EventType Own) : List (LoopKind × List Text) :=
  match report.left with
  | none => []
  | some run => run.loops.map fun task => (task.work.loop.kind, task.work.loop.names)

/-- The tasks that are still alive. -/
def alive (report : RunReport EventType Own) : List TaskName :=
  match report.left with
  | none => []
  | some run => run.alive

/-- The database that is still connected. -/
def connection (report : RunReport EventType Own) : Option DatabasePlace :=
  report.left.bind LiveRun.connection

/-- The monitor that was made. -/
def monitor (report : RunReport EventType Own) : Option Monitor :=
  report.left.map fun run => run.monitor.work

end RunReport

namespace RunPlan

variable {EventType Own : Type}

/-- How a plan connects. -/
def retryPolicy (plan : RunPlan EventType Own) : RetryPolicy :=
  { attempts := plan.settings.retryCount, busyTimeout := plan.settings.busyTimeout }

/-- The loops of a plan over event types, at work from `now` on. -/
def tasks (plan : RunPlan EventType Own) (now : Instant) (types : List (Text × EventType)) :
    Except Fault (List (LoopTask EventType)) := do
  let settings := plan.settings
  let stats := Span.ofFloat settings.statsInterval
  let make (kind : LoopKind) (seed : Int) (interval : Float) :
      Except Fault (LoopTask EventType) := do
    return LoopTask.start now (Span.ofFloat interval) stats
      (← TypedLoop.ofTypes kind types seed)
  let writers ←
    if plan.mode.writes then
      (make .writer settings.seed settings.writeInterval).map ([·])
    else pure []
  let readers ←
    if plan.mode.reads then
      (make .reader (plan.mode.readerSeed settings.seed) settings.readInterval).map ([·])
    else pure []
  return writers ++ readers

/-- The run of loops on a database that is up to date, before it begins at `now`. -/
def idle (plan : RunPlan EventType Own) (now : Instant) (actions : List ScheduledAction)
    (place : DatabasePlace) (source : Text) (tasks : List (LoopTask EventType))
    (world : Workspace × Own) : LiveRun EventType Own :=
  let checkInterval := Span.ofFloat plan.settings.checkInterval
  { clock := plan.clock, tick := plan.workload.tick place, workspace := world.1, own := world.2
    connection := some place, loops := tasks.map fun task => { work := task }
    monitor := { work := Monitor.ofPath source }, checkInterval
    nextPoll := now + checkInterval.seconds, actions }

/-- The run of loops on a database that is up to date, from `now` on. -/
def work (plan : RunPlan EventType Own) (now limit : Instant) (actions : List ScheduledAction)
    (place : DatabasePlace) (source : Text) (tasks : List (LoopTask EventType))
    (world : Workspace × Own) : RunReport EventType Own :=
  let idle := plan.idle now actions place source tasks world
  let run := (idle.actAll now).start now
  let (run, ended, ending) : LiveRun EventType Own × Instant × RunEnd :=
    match (run.limited limit now).end? with
    | some ending => (run, now, ending)
    | none => run.follow limit (run.instantBound limit)
  let run :=
    match ending with
    | .ok cause => run.stop ended cause
    | .error _ => run
  { result := ending.map StopCause.status
    time := ended
    log := run.log
    workspace := run.workspace
    own := run.own
    left := some run }

/-- The entries of the log for statements that a migration executed. -/
def migrationEntries (now : Instant) (applied : List Text) : List LogEntry :=
  applied.map fun statement => LogEntry.info now (("Applied migration: " : Text) ++ statement)

/-- The report of a run that does not come to work. -/
def failed (now : Instant) (fault : Fault) (entries : List LogEntry) (world : Workspace × Own) :
    RunReport EventType Own :=
  { result := .error fault, time := now, workspace := world.1, own := world.2
    log := entries ++ [LiveRun.stoppedEntry now "startup failed"] }

/-- Brings the database up to date and works. -/
def migrateAndWork (plan : RunPlan EventType Own) (now limit : Instant)
    (actions : List ScheduledAction) (place : DatabasePlace) (world : Workspace × Own) :
    RunReport EventType Own :=
  let migrated := plan.workload.migrate place world
  let entries := migrationEntries now migrated.applied
  match migrated.changes with
  | .error fault => failed now fault entries migrated.world
  | .ok changes =>
      let entries := entries ++ [LogEntry.info now (("Migration complete, " : Text) ++
        Text.ofNat changes ++ " change(s) applied")]
      let (prepared, world) := plan.workload.prepare migrated.world
      let ready := do
        let (source, types) ← prepared
        return (source, ← plan.tasks now types)
      match ready with
      | .error fault => failed now fault entries world
      | .ok (source, tasks) =>
          let report := plan.work now limit actions place source tasks world
          { report with log := entries ++ report.log }

/-- The first entries of the log of a run. -/
def openingEntries (plan : RunPlan EventType Own) : List LogEntry :=
  [LogEntry.info 0 (("Starting eventgen " : Text) ++ plan.mode.name),
    LogEntry.info 0 Settings.logMessage]

/-- The workspace after the actions up to a time, for a run that does not work. -/
def workspaceAt (workspace : Workspace) (actions : List ScheduledAction) (now : Instant) :
    Workspace :=
  (actions.filter fun scheduled => scheduled.time ≤ now).foldl
    (fun workspace scheduled => scheduled.action.apply workspace) workspace

/-- The run of a plan from time zero, with what happens from outside.  It lasts no longer than
`limit`. -/
def run (plan : RunPlan EventType Own) (limit : Instant) (actions : List ScheduledAction)
    (workspace : Workspace) (own : Own) : RunReport EventType Own :=
  let path := plan.settings.databasePath
  let connecting := Connecting.run plan.retryPolicy path (fun _ => workspace.openDatabase path) 0
  let opening := plan.openingEntries ++ connecting.log
  match connecting.outcome with
  | .error fault =>
      { result := .error fault.toFault, time := connecting.time, log := opening
        workspace := workspaceAt workspace actions connecting.time, own }
  | .ok (place, workspace) =>
      let report := plan.migrateAndWork connecting.time limit actions place (workspace, own)
      { report with log := opening ++ report.log }

end RunPlan

end EventForge
