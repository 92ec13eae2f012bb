import EventForge.Digest.Sha256
import EventForge.Files
import EventForge.Log

/-!
# Watching a schema source

A monitor compares the bytes of a source with those that it saw first; a watch polls it.
-/

namespace EventForge

/-!
## Watching a schema source

A monitor polls a file and compares the digest of its bytes with that of the first successful read.
A poll of a file that the system cannot read is reported and changes nothing.  A path that cannot be
read at all is no error of reading: its refusal is not reported.
-/

inductive MonitorState
  | baseline
  | watching
  | changed
deriving DecidableEq, Repr

def MonitorState.name : MonitorState → Text
  | .baseline => "baseline"
  | .watching => "watching"
  | .changed => "changed"

structure Monitor where
  path : Text
  state : MonitorState := .baseline
  /-- How many reads succeeded. -/
  polls : Nat := 0
  notifications : Nat := 0
  /-- The digest of the first successful read. -/
  baseline : Option Text := none
deriving DecidableEq

/-- What a poll finds. -/
inductive PollOutcome
  /-- The system cannot read the file, which is reported. -/
  | unreadable (fault : FileFault)
  /-- The path is refused, which nobody handles. -/
  | refused (fault : FileFault)
  | recorded (digest : Text)
  | unchanged
  | changed (before after : Text)
deriving DecidableEq

/-- The error of a poll that cannot read the file. -/
structure MonitorReadError where
  path : Text
  fault : FileFault
deriving DecidableEq

namespace MonitorReadError

def message (error : MonitorReadError) : Text :=
  ("error reading type mappings file " : Text) ++ error.path ++ ": " ++ error.fault.message

def toFault (error : MonitorReadError) : Fault :=
  { kind := .monitorReading, message := error.message, code := some "MONITOR_READ_ERROR"
    details := [("path", .text error.path)] }

end MonitorReadError

namespace Monitor

/-- A monitor that has not read its file yet. -/
def ofPath (path : Text) : Monitor := { path := FilePath.normal path }

/-- Takes the digest of a successful read. -/
def observe (monitor : Monitor) (digest : Text) : Monitor × PollOutcome :=
  match monitor.baseline with
  | none =>
      ({ monitor with
          polls := monitor.polls + 1, baseline := some digest, state := .watching },
        .recorded digest)
  | some first =>
      if digest = first then ({ monitor with polls := monitor.polls + 1 }, .unchanged)
      else
        ({ monitor with
            polls := monitor.polls + 1
            notifications := monitor.notifications + 1
            state := .changed },
          .changed first digest)

/-- Polls with the outcome of reading the file. -/
def poll (monitor : Monitor) (content : Except FileFault Bytes) : Monitor × PollOutcome :=
  match content with
  | .error fault =>
      (monitor, if fault.isOfSystem then .unreadable fault else .refused fault)
  | .ok content => monitor.observe (Sha256.hexDigest content)

/-- The entry of the log for a poll. -/
def logEntry? (now : Instant) : PollOutcome → Option LogEntry
  | .recorded digest =>
      some (LogEntry.info now (("Recorded schema source baseline " : Text) ++ digest.take 12))
  | .changed before after =>
      some (LogEntry.warning now (("Schema source changed (" : Text) ++ before.take 12 ++ " -> " ++
        after.take 12 ++ ")"))
  | _ => none

/-- The error that a poll puts on the queue. -/
def error? (monitor : Monitor) : PollOutcome → Option MonitorReadError
  | .unreadable fault => some { path := monitor.path, fault }
  | _ => none

/-- The failure of a poll that is not reported. -/
def death? : PollOutcome → Option Fault
  | .refused fault => some fault.fault
  | _ => none

/-- The entry of the log when watching starts. -/
def startMessage (monitor : Monitor) (interval : Span) : Text :=
  ("Watching schema source " : Text) ++ monitor.path ++ " every " ++ interval.shown ++ "s"

/-- The entry of the log when watching is stopped. -/
def stopMessage (reason : Text) : Text := ("Schema monitor stopped: " : Text) ++ reason

end Monitor

/-!
## Watching in time

A watch polls at once and then at every multiple of its interval until it is cancelled, or until a
poll fails in a way that it does not report.  Files change in between; a change that fails is passed
over, but one at the start must not fail.
-/

/-- A change of a file tree from outside, and when it happens. -/
structure FileAction where
  time : Instant
  change : FileTree → Except FileFault FileTree

/-- What became of a watch so far. -/
structure Watch where
  monitor : Monitor
  /-- The errors put on the queue, with their times. -/
  errors : List (Instant × MonitorReadError) := []
  /-- The times of the changes that were announced. -/
  changes : List Instant := []
  log : List LogEntry := []
  /-- The failure that ended the watch, if one did. -/
  death : Option Fault := none

namespace Watch

/-- Takes what a poll finds.  A watch that has ended does not poll any more. -/
def observe (now : Instant) (content : Except FileFault Bytes) (watch : Watch) : Watch :=
  if watch.death.isSome then watch
  else
    let (monitor, outcome) := watch.monitor.poll content
    { monitor
      errors :=
        match monitor.error? outcome with
        | some error => watch.errors ++ [(now, error)]
        | none => watch.errors
      changes :=
        match outcome with
        | .changed _ _ => watch.changes ++ [now]
        | _ => watch.changes
      log := watch.log ++ (Monitor.logEntry? now outcome).toList
      death := Monitor.death? outcome }

/-- The tree after the actions up to a time. -/
def treeAt (tree : FileTree) (actions : List FileAction) (now : Instant) : FileTree :=
  (actions.filter fun action => action.time ≤ now).foldl
    (fun tree action => ((action.change tree).toOption).getD tree) tree

/-- The tree after the actions at the start. -/
def startTree (tree : FileTree) (actions : List FileAction) : Except FileFault FileTree :=
  (actions.filter fun action => action.time ≤ 0).foldlM (fun tree action => action.change tree) tree

/-- A poll of a tree at a time. -/
def poll (now : Instant) (tree : FileTree) (watch : Watch) : Watch :=
  watch.observe now (tree.read watch.monitor.path)

/-- The times of the polls before a cancellation. -/
def pollTimes (interval : Rat) (cancelled : Instant) : List Instant :=
  (List.range ((cancelled / interval).ceil.toNat + 1)).filterMap fun (index : Nat) =>
    let time := (index : Rat) * interval
    if index = 0 || time < cancelled then some time else none

/-- Cancels a watch, unless it has ended before. -/
def cancel (now : Instant) (reason : Option Text) (watch : Watch) : Watch :=
  if watch.death.isSome then watch
  else
    { watch with
      log := watch.log ++ [LogEntry.info now (Monitor.stopMessage (reason.getD "cancelled"))] }

/-- A watch from time zero until it is cancelled.  Actions at equal times happen in their order. -/
def run (tree : FileTree) (monitor : Monitor) (interval : Span) (actions : List FileAction)
    (cancelled : Instant) (reason : Option Text) : Except FileFault Watch := do
  let begun : Watch :=
    { monitor, log := [LogEntry.info 0 (monitor.startMessage interval)] }
  let tree ← startTree tree actions
  let later := actions.filter fun action => 0 < action.time
  let ended := (pollTimes interval.seconds cancelled).foldl
    (fun watch now => watch.poll now (treeAt tree later now)) begun
  return ended.cancel cancelled reason

end Watch

end EventForge
