import EventForge.Proofs.Load.Timers
import EventForge.Proofs.Load.Watching

/-!
# What an instant brings

At an instant the actions from outside that are due happen first; then the loops take their turns, one
after the other; then the schema source is polled.  What an instant brings is what the operations of
the loops return and what the poll reads.  It says what becomes of the run.
-/

namespace EventForge

/-- The error that a loop puts on the queue, if a fault of its operation is one. -/
def OperationFault.reported? : OperationFault → Option Fault
  | .reported fault => some fault
  | .unexpected _ => none

/-- The failure that a loop dies of, if a fault of its operation is one. -/
def OperationFault.unexpected? : OperationFault → Option Fault
  | .reported _ => none
  | .unexpected fault => some fault

theorem eq_of_unexpected? {fault : Option OperationFault} {failure : Fault}
    (death : fault.bind OperationFault.unexpected? = some failure) :
    fault = some (.unexpected failure) := by
  match fault with
  | none => cases death
  | some (.reported fault) => cases death
  | some (.unexpected fault) =>
      exact congrArg (fun fault => some (OperationFault.unexpected fault)) (Option.some.inj death)

/-- What the operations that are performed at an instant return, and what the poll reads, if there is
one. -/
structure Observed where
  /-- The loops that performed operations, and why these failed if they did. -/
  operations : List (LoopKind × Option OperationFault) := []
  read : Option (Except FileFault Bytes) := none

namespace Observed

/-- The errors of storage and retrieval among what operations return. -/
def failuresOf (operations : List (LoopKind × Option OperationFault)) : List Fault :=
  operations.filterMap fun operation => operation.2.bind OperationFault.reported?

/-- The failures that loops die of among what operations return. -/
def deathsOf (operations : List (LoopKind × Option OperationFault)) : List Fault :=
  operations.filterMap fun operation => operation.2.bind OperationFault.unexpected?

/-- The operations that fail with an error of storage or retrieval. -/
def failures (observed : Observed) : List Fault := failuresOf observed.operations

/-- The failures that tasks die of: those of operations, and the refusal of a read. -/
def deaths (observed : Observed) : List Fault :=
  deathsOf observed.operations ++ (observed.read.bind Watch.refusal?).toList

/-- Whether a poll reads bytes that differ from the baseline. -/
def Differs (monitor : Monitor) (observed : Observed) : Prop :=
  ∃ first content, monitor.baseline = some first ∧ observed.read = some (.ok content) ∧
    Sha256.hexDigest content ≠ first

end Observed

/-- A loop that woke and goes on: behind a report it counts anew, and it waits for its next
deadlines. -/
def LoopTask.goOn {EventType : Type} (now : Instant) (loop : TypedLoop EventType)
    (task : LoopTask EventType) : LoopTask EventType :=
  { task with
    loop := if task.cadence.reportDue now then { loop with stats := {} } else loop
    cadence := task.cadence.wake now }

/-- Whether a loop takes its turn at an instant: it works, and has reached a deadline. -/
def TakesTurn {EventType : Type} (now : Instant) (task : Supervised (LoopTask EventType)) : Prop :=
  task.state.isWorking = true ∧ task.work.cadence.deadline ≤ now

/-- The turns of loops at an instant: what their operations return, and what becomes of the world and
of the loops.  A loop dies of a failure that is not reported; if that ends the program, the loops
behind it have no turn any more. -/
inductive Turns {EventType World : Type} (tick : Ticker EventType World) (clock : Clock)
    (now : Instant) : World → List (Supervised (LoopTask EventType)) →
      List (LoopKind × Option OperationFault) → World → List (Supervised (LoopTask EventType)) → Prop
  | done (world : World) : Turns tick clock now world [] [] world []
  | rests {world last task tasks operations left} (waits : ¬TakesTurn now task)
      (others : Turns tick clock now world tasks operations last left) :
      Turns tick clock now world (task :: tasks) operations last (task :: left)
  | reports {world last task tasks operations left} (wakes : TakesTurn now task)
      (early : task.work.cadence.operationDue now = false)
      (others : Turns tick clock now world tasks operations last left) :
      Turns tick clock now world (task :: tasks) operations last
        ({ work := task.work.goOn now task.work.loop } :: left)
  | operates {world next last task tasks operations left fault loop} (wakes : TakesTurn now task)
      (due : task.work.cadence.operationDue now = true)
      (performed : tick clock world task.work.loop = (fault, loop, next))
      (lives : fault.bind OperationFault.unexpected? = none)
      (others : Turns tick clock now next tasks operations last left) :
      Turns tick clock now world (task :: tasks) ((task.work.loop.kind, fault) :: operations) last
        ({ work := task.work.goOn now loop } :: left)
  | dies {world next last task tasks operations left fault loop} (wakes : TakesTurn now task)
      (due : task.work.cadence.operationDue now = true)
      (performed : tick clock world task.work.loop = (some (.unexpected fault), loop, next))
      (handled : fault.reach ≠ .final)
      (others : Turns tick clock now next tasks operations last left) :
      Turns tick clock now world (task :: tasks)
        ((task.work.loop.kind, some (.unexpected fault)) :: operations) last
        ({ work := { task.work with loop }, state := .died fault } :: left)
  | ends {world next task tasks fault loop} (wakes : TakesTurn now task)
      (due : task.work.cadence.operationDue now = true)
      (performed : tick clock world task.work.loop = (some (.unexpected fault), loop, next))
      (final : fault.reach = .final) :
      Turns tick clock now world (task :: tasks)
        [(task.work.loop.kind, some (.unexpected fault))] next
        ({ work := { task.work with loop }, state := .died fault } :: tasks)

/-- Whether an action requests a shutdown. -/
def OutsideAction.isRequest : OutsideAction → Bool
  | .shutdown | .signal _ => true
  | .files _ | .statement _ _ => false

namespace LiveRun

variable {EventType Own : Type}

/-- The monitor behind a read. -/
def monitorAfter (monitor : Supervised Monitor) :
    Option (Except FileFault Bytes) → Supervised Monitor
  | none => monitor
  | some read =>
      { work := (monitor.work.poll read).1, state := (Watch.refusal? read).elim .working .died }

/-- What an instant makes of a run, by what it brings.  The poll is that of a monitor at work whose
time has come, unless the program ends before. -/
structure Passes (now : Instant) (old : LiveRun EventType Own) (observed : Observed)
    (new : LiveRun EventType Own) : Prop where
  turns : Turns old.tick (old.clock now) now
    (RunPlan.workspaceAt old.workspace old.actions now, old.own) old.loops observed.operations
    (new.workspace, new.own) new.loops
  polled : (∃ read, observed.read = some read) ↔
    old.monitor.state.isWorking = true ∧ old.nextPoll ≤ now ∧
      ¬∃ fault ∈ Observed.deathsOf observed.operations, fault.reach = .final
  read : ∀ read, observed.read = some read → read = new.workspace.files.read old.monitor.work.path
  monitor : new.monitor = monitorAfter old.monitor observed.read
  nextPoll : new.nextPoll =
    if observed.read.isSome then now + old.checkInterval.seconds else old.nextPoll
  actions : new.actions = old.actions.dropWhile fun scheduled => scheduled.time ≤ now
  shutdown : new.shutdown = true ↔ old.shutdown = true ∨
    ∃ scheduled ∈ old.actions, scheduled.time ≤ now ∧ scheduled.action.isRequest = true
  tick : new.tick = old.tick
  clock : new.clock = old.clock
  checkInterval : new.checkInterval = old.checkInterval
  connection : new.connection = old.connection

/-!
## The actions of an instant
-/

/-- What an action that is due makes of a run. -/
theorem act_eq (run : LiveRun EventType Own) {now : Instant} (scheduled : ScheduledAction)
    (due : scheduled.time ≤ now) :
    ∃ entries, MadeBy now entries ∧ run.act scheduled.time scheduled.action =
      { run with
        workspace := scheduled.action.apply run.workspace
        shutdown := run.shutdown || scheduled.action.isRequest
        log := run.log ++ entries } := by
  cases kind : scheduled.action with
  | shutdown => exact ⟨[], by simp [MadeBy], by simp [act, OutsideAction.isRequest]⟩
  | signal number =>
      refine ⟨[LogEntry.info scheduled.time _], ?_, by
        simp only [act, OutsideAction.isRequest, Bool.or_true]; rfl⟩
      intro entry member
      rw [List.mem_singleton.mp member]
      exact due
  | files change => exact ⟨[], by simp [MadeBy], by simp [act, OutsideAction.isRequest]⟩
  | statement path text => exact ⟨[], by simp [MadeBy], by simp [act, OutsideAction.isRequest]⟩

theorem foldl_act_eq (run : LiveRun EventType Own) {now : Instant} (due : List ScheduledAction)
    (early : ∀ scheduled ∈ due, scheduled.time ≤ now) :
    ∃ entries, MadeBy now entries ∧
      due.foldl (fun run scheduled => run.act scheduled.time scheduled.action) run =
        { run with
          workspace := due.foldl (fun workspace scheduled => scheduled.action.apply workspace)
            run.workspace
          shutdown := run.shutdown || due.any fun scheduled => scheduled.action.isRequest
          log := run.log ++ entries } := by
  induction due generalizing run with
  | nil => exact ⟨[], by simp [MadeBy], by simp⟩
  | cons scheduled due ih =>
      obtain ⟨first, firstMade, acted⟩ := run.act_eq scheduled (early scheduled (by simp))
      obtain ⟨others, othersMade, folded⟩ := ih (run.act scheduled.time scheduled.action)
        fun other member => early other (by simp [member])
      refine ⟨first ++ others, firstMade.append othersMade, ?_⟩
      rw [List.foldl_cons, folded, acted]
      simp [Bool.or_assoc]

/-- What the actions that are due make of a run. -/
theorem actAll_eq (now : Instant) (run : LiveRun EventType Own) (ordered : InOrder run.actions) :
    ∃ entries, MadeBy now entries ∧ run.actAll now =
      { run with
        workspace := RunPlan.workspaceAt run.workspace run.actions now
        actions := run.actions.dropWhile fun scheduled => scheduled.time ≤ now
        shutdown := run.shutdown || (run.actions.filter fun scheduled => scheduled.time ≤ now).any
          fun scheduled => scheduled.action.isRequest
        log := run.log ++ entries } := by
  unfold actAll RunPlan.workspaceAt
  dsimp only
  rw [drop_takeWhile, ← filter_eq_takeWhile now run.actions ordered]
  exact foldl_act_eq
    { run with actions := run.actions.dropWhile fun scheduled => scheduled.time ≤ now }
    (run.actions.filter fun scheduled => scheduled.time ≤ now) (by simp)

/-!
## The turns of an instant
-/

section Wake

variable {World : Type} {tick : Ticker EventType World} {clock : Clock} {now : Instant}
  {world next : World} {task : LoopTask EventType} {loop : TypedLoop EventType}

/-- The counters that a loop reports that woke and goes on. -/
def reportOf (now : Instant) (loop : TypedLoop EventType) (task : LoopTask EventType) :
    Option LoopStats :=
  if task.cadence.reportDue now then some loop.stats else none

theorem wake_of_early (early : task.cadence.operationDue now = false) :
    task.wake tick clock now world =
      { task := task.goOn now task.loop, world, report := reportOf now task.loop task } := by
  simp only [LoopTask.wake, LoopTask.operate, early, LoopTask.goOn, reportOf, TypedLoop.report]
  cases task.cadence.reportDue now <;> rfl

theorem wake_of_performed {fault : Option OperationFault}
    (due : task.cadence.operationDue now = true)
    (performed : tick clock world task.loop = (fault, loop, next))
    (lives : fault.bind OperationFault.unexpected? = none) :
    task.wake tick clock now world =
      { task := task.goOn now loop, world := next, fault, report := reportOf now loop task } := by
  simp only [LoopTask.wake, LoopTask.operate, due, if_true, performed, LoopTask.goOn, reportOf,
    TypedLoop.report]
  match fault with
  | none => cases task.cadence.reportDue now <;> rfl
  | some (.reported fault) => cases task.cadence.reportDue now <;> rfl
  | some (.unexpected fault) => cases lives

theorem wake_of_death {fault : Fault} (due : task.cadence.operationDue now = true)
    (performed : tick clock world task.loop = (some (.unexpected fault), loop, next)) :
    task.wake tick clock now world =
      { task := { task with loop }, world := next, fault := some (.unexpected fault) } := by
  simp only [LoopTask.wake, LoopTask.operate, due, if_true, performed]

end Wake

/-- Whether a task died of a failure that ends the program. -/
def IsLost (state : TaskState) : Prop := ∃ fault, state.death? = some fault ∧ fault.reach = .final

theorem isLost_died (fault : Fault) : IsLost (.died fault) ↔ fault.reach = .final := by
  simp [IsLost, TaskState.death?]

theorem death?_of_isWorking {state : TaskState} (works : state.isWorking = true) :
    state.death? = none := by
  cases state with
  | working => rfl
  | stopping | stopped | died => cases works

theorem not_isLost_of_isWorking {state : TaskState} (works : state.isWorking = true) :
    ¬IsLost state := by
  rintro ⟨fault, died, _⟩
  rw [death?_of_isWorking works] at died
  cases died

theorem mem_deaths_iff (run : LiveRun EventType Own) (death : TaskName × Fault) :
    death ∈ run.deaths ↔
      (∃ task ∈ run.loops, task.state.death? = some death.2 ∧
        death.1 = .loop task.work.loop.kind) ∨
      run.monitor.state.death? = some death.2 ∧ death.1 = .monitor := by
  obtain ⟨name, fault⟩ := death
  simp only [deaths, List.mem_append, List.mem_filterMap, Option.map_eq_some_iff, Prod.mk.injEq,
    Option.mem_toList]
  grind

/-- A fault ends the program exactly if a task died of it. -/
theorem final?_eq_none_iff (run : LiveRun EventType Own) :
    run.final? = none ↔ (∀ task ∈ run.loops, ¬IsLost task.state) ∧ ¬IsLost run.monitor.state := by
  simp only [final?, Option.map_eq_none_iff, List.find?_eq_none, decide_eq_true_eq, mem_deaths_iff,
    IsLost]
  constructor
  · intro none
    refine ⟨?_, ?_⟩
    · rintro task member ⟨fault, died, final⟩
      exact none (_, fault) (.inl ⟨task, member, died, rfl⟩) final
    · rintro ⟨fault, died, final⟩
      exact none (_, fault) (.inr ⟨died, rfl⟩) final
  · rintro ⟨loops, monitor⟩ death (⟨task, member, died, _⟩ | ⟨died, _⟩) final
    · exact loops task member ⟨_, died, final⟩
    · exact monitor ⟨_, died, final⟩

/-- A run whose next loop took its turn. -/
def afterTurn (run : LiveRun EventType Own) (world : Workspace × Own)
    (left : Supervised (LoopTask EventType))
    (operations : List (LoopKind × Option OperationFault)) (entries : List LogEntry) :
    LiveRun EventType Own :=
  { run with
    workspace := world.1, own := world.2
    loops := run.loops ++ [left]
    errors := run.errors ++ Observed.failuresOf operations
    log := run.log ++ entries }

section Turn

variable {now : Instant} (run : LiveRun EventType Own) {task : LoopTask EventType}
  {loop : TypedLoop EventType} {next : Workspace × Own}

/-- The entry of the log for a report. -/
def reportEntries (now : Instant) (loop : TypedLoop EventType) (task : LoopTask EventType) :
    List LogEntry :=
  ((reportOf now loop task).map (task.reportEntry now)).toList

theorem madeBy_reportEntries (now : Instant) (loop : TypedLoop EventType)
    (task : LoopTask EventType) : MadeBy now (reportEntries now loop task) := by
  intro entry member
  obtain ⟨stats, _, rfl⟩ := Option.map_eq_some_iff.mp (Option.mem_toList.mp member)
  exact le_refl now

theorem wakeTask_of_early (early : task.cadence.operationDue now = false) :
    run.wakeTask now task = run.afterTurn (run.workspace, run.own)
      { work := task.goOn now task.loop } [] (reportEntries now task.loop task) := by
  rw [wakeTask, wake_of_early early]
  simp [afterTurn, reportEntries, Observed.failuresOf]

theorem wakeTask_of_performed {fault : Option OperationFault}
    (due : task.cadence.operationDue now = true)
    (performed : run.tick (run.clock now) (run.workspace, run.own) task.loop = (fault, loop, next))
    (lives : fault.bind OperationFault.unexpected? = none) :
    run.wakeTask now task = run.afterTurn next { work := task.goOn now loop }
      [(task.loop.kind, fault)] (reportEntries now loop task) := by
  rw [wakeTask, wake_of_performed due performed lives]
  match fault with
  | none => simp [afterTurn, reportEntries, Observed.failuresOf]
  | some (.reported fault) =>
      simp [afterTurn, reportEntries, Observed.failuresOf, OperationFault.reported?]
  | some (.unexpected fault) => cases lives

theorem wakeTask_of_death {fault : Fault} (due : task.cadence.operationDue now = true)
    (performed : run.tick (run.clock now) (run.workspace, run.own) task.loop =
      (some (.unexpected fault), loop, next)) :
    run.wakeTask now task = run.afterTurn next
      { work := { task with loop }, state := .died fault }
      [(task.loop.kind, some (.unexpected fault))] [] := by
  rw [wakeTask, wake_of_death due performed]
  simp [afterTurn, Observed.failuresOf, OperationFault.reported?]

end Turn

theorem isAwake_iff (now : Instant) (task : Supervised (LoopTask EventType)) :
    isAwake now task = true ↔ TakesTurn now task := by
  simp [isAwake, TakesTurn]

/-- Whether loops took their turns in a run. -/
def Serves (now : Instant) (tasks : List (Supervised (LoopTask EventType)))
    (old new : LiveRun EventType Own) : Prop :=
  ∃ operations world left entries,
    Turns old.tick (old.clock now) now (old.workspace, old.own) tasks operations world left ∧
      MadeBy now entries ∧ new =
        { old with
          workspace := world.1, own := world.2
          loops := old.loops ++ left
          errors := old.errors ++ Observed.failuresOf operations
          log := old.log ++ entries }

section Serves

variable {now : Instant} {run next new : LiveRun EventType Own}
  {task left : Supervised (LoopTask EventType)} {tasks : List (Supervised (LoopTask EventType))}
  {world : Workspace × Own} {operations : List (LoopKind × Option OperationFault)}
  {entries : List LogEntry}

theorem final?_afterTurn (goesOn : run.final? = none) (lives : ¬IsLost left.state) :
    (run.afterTurn world left operations entries).final? = none := by
  obtain ⟨loops, monitor⟩ := (final?_eq_none_iff run).mp goesOn
  refine (final?_eq_none_iff _).mpr ⟨?_, monitor⟩
  intro other member
  rcases List.mem_append.mp member with member | member
  · exact loops other member
  · rwa [List.mem_singleton.mp member]

/-- The turn of one loop and those of the loops behind it are turns in a run. -/
theorem Serves.cons (woken : next = run.afterTurn world left operations entries)
    (made : MadeBy now entries) (others : Serves now tasks next new)
    (first : ∀ {more last rest}, Turns run.tick (run.clock now) now world tasks more last rest →
      Turns run.tick (run.clock now) now (run.workspace, run.own) (task :: tasks)
        (operations ++ more) last (left :: rest)) :
    Serves now (task :: tasks) run new := by
  obtain ⟨more, last, rest, moreEntries, turns, moreMade, rfl⟩ := others
  subst woken
  refine ⟨operations ++ more, last, left :: rest, entries ++ moreEntries, first turns,
    made.append moreMade, ?_⟩
  simp [afterTurn, Observed.failuresOf]

/-- A loop that lives leaves the others their turns. -/
theorem wakeAll_of_lives (goesOn : run.final? = none) (wakes : TakesTurn now task)
    (woken : run.wakeTask now task.work = run.afterTurn world left operations entries)
    (lives : ¬IsLost left.state) :
    wakeAll now (task :: tasks) run = wakeAll now tasks (run.wakeTask now task.work) := by
  have next : (run.wakeTask now task.work).final? = none := by
    rw [woken]
    exact final?_afterTurn goesOn lives
  rw [wakeAll, if_pos ((isAwake_iff now task).mpr wakes)]
  simp [next]

/-- A loop that dies of a fault that ends the program keeps the others from their turns. -/
theorem wakeAll_of_lost (wakes : TakesTurn now task)
    (woken : run.wakeTask now task.work = run.afterTurn world left operations entries)
    (lost : IsLost left.state) :
    wakeAll now (task :: tasks) run =
      { run.wakeTask now task.work with loops := (run.wakeTask now task.work).loops ++ tasks } := by
  have final : (run.wakeTask now task.work).final?.isSome = true := by
    rw [← Option.ne_none_iff_isSome, woken]
    intro none
    exact ((final?_eq_none_iff _).mp none).1 left (by simp [afterTurn]) lost
  rw [wakeAll, if_pos ((isAwake_iff now task).mpr wakes)]
  exact if_pos final

theorem wakeAll_of_rests (waits : ¬TakesTurn now task) :
    wakeAll now (task :: tasks) run =
      wakeAll now tasks (run.afterTurn (run.workspace, run.own) task [] []) := by
  have asleep : ¬isAwake now task = true := fun awake => waits ((isAwake_iff now task).mp awake)
  rw [wakeAll, if_neg asleep]
  simp [afterTurn, Observed.failuresOf]

end Serves

/-- The loops take their turns. -/
theorem serves_wakeAll (now : Instant) (tasks : List (Supervised (LoopTask EventType)))
    (run : LiveRun EventType Own) (goesOn : run.final? = none)
    (kept : ∀ task ∈ tasks, ¬IsLost task.state) : Serves now tasks run (wakeAll now tasks run) := by
  induction tasks generalizing run with
  | nil =>
      exact ⟨[], _, [], [], .done _, by simp [MadeBy], by simp [wakeAll, Observed.failuresOf]⟩
  | cons task tasks ih =>
      have behind : ∀ other ∈ tasks, ¬IsLost other.state := fun other member =>
        kept other (by simp [member])
      -- The others take their turns in a run whose first loop took its own and lives.
      have others {world left operations entries} (lives : ¬IsLost left.state) :
          Serves now tasks (run.afterTurn world left operations entries)
            (wakeAll now tasks (run.afterTurn world left operations entries)) :=
        ih _ (final?_afterTurn goesOn lives) behind
      by_cases wakes : TakesTurn now task
      · cases due : task.work.cadence.operationDue now with
        | false =>
            have woken := run.wakeTask_of_early due
            have lives := not_isLost_of_isWorking (rfl : TaskState.working.isWorking = true)
            rw [wakeAll_of_lives goesOn wakes woken lives, woken]
            exact .cons rfl (madeBy_reportEntries _ _ _) (others lives) (.reports wakes due)
        | true =>
            rcases performed : run.tick (run.clock now) (run.workspace, run.own) task.work.loop with
              ⟨fault, loop, world⟩
            cases death : fault.bind OperationFault.unexpected? with
            | none =>
                have woken := run.wakeTask_of_performed due performed death
                have lives := not_isLost_of_isWorking (rfl : TaskState.working.isWorking = true)
                rw [wakeAll_of_lives goesOn wakes woken lives, woken]
                exact .cons rfl (madeBy_reportEntries _ _ _) (others lives)
                  (.operates wakes due performed death)
            | some failure =>
                obtain rfl : fault = some (.unexpected failure) := eq_of_unexpected? death
                have woken := run.wakeTask_of_death due performed
                by_cases final : failure.reach = .final
                · rw [wakeAll_of_lost wakes woken ((isLost_died failure).mpr final), woken]
                  exact ⟨_, world, _, [], .ends wakes due performed final, by simp [MadeBy], by
                    simp [afterTurn]⟩
                · have lives := (isLost_died failure).not.mpr final
                  rw [wakeAll_of_lives goesOn wakes woken lives, woken]
                  exact .cons rfl (by simp [MadeBy]) (others lives)
                    (.dies wakes due performed final)
      · rw [wakeAll_of_rests wakes]
        exact .cons rfl (by simp [MadeBy]) (others (kept task (by simp))) (.rests wakes)

/-!
## The poll of an instant
-/

theorem death?_poll (monitor : Monitor) (read : Except FileFault Bytes) :
    Monitor.death? (monitor.poll read).2 = Watch.refusal? read := by
  cases read with
  | error fault =>
      cases fails : fault.isOfSystem <;>
        simp [Monitor.poll, fails, Monitor.death?, Watch.refusal?]
  | ok content =>
      unfold Monitor.poll Monitor.observe
      simp only
      split
      · rfl
      · split <;> rfl

/-- The path that a poll announces, if it reads bytes that differ from the baseline. -/
def announced (monitor : Monitor) : PollOutcome → List Text
  | .changed _ _ => [monitor.path]
  | _ => []

theorem announced_poll_iff (monitor : Monitor) (read : Except FileFault Bytes) :
    announced (monitor.poll read).1 (monitor.poll read).2 ≠ [] ↔
      Observed.Differs monitor { read := some read } := by
  cases read with
  | error fault =>
      cases fails : fault.isOfSystem <;> simp [Monitor.poll, fails, announced, Observed.Differs]
  | ok content =>
      cases known : monitor.baseline with
      | none => simp [Monitor.poll, Monitor.observe, known, announced, Observed.Differs]
      | some first =>
          by_cases same : Sha256.hexDigest content = first <;>
            simp [Monitor.poll, Monitor.observe, known, same, announced, Observed.Differs]

theorem madeBy_pollEntries (now : Instant) (outcome : PollOutcome) :
    MadeBy now (Monitor.logEntry? now outcome).toList := by
  intro entry member
  cases outcome <;> simp [Monitor.logEntry?] at member <;> rw [member] <;> exact le_refl now

theorem tellErrors_eq (now : Instant) (run : LiveRun EventType Own) :
    ∃ errors entries, MadeBy now entries ∧ run.tellErrors now =
      { run with monitorErrors := errors, log := run.log ++ entries } := by
  unfold tellErrors
  split
  · refine ⟨[], _, ?_, rfl⟩
    intro entry member
    obtain ⟨error, _, rfl⟩ := List.mem_map.mp member
    exact le_refl now
  · exact ⟨run.monitorErrors, [], by simp [MadeBy], by simp⟩

/-- What a poll makes of a run, with what is told of it. -/
theorem poll_eq (now : Instant) (run : LiveRun EventType Own) {read : Except FileFault Bytes}
    (reads : read = run.workspace.files.read run.monitor.work.path) :
    ∃ errors entries, MadeBy now entries ∧ (run.poll now).tellErrors now =
      { run with
        monitor := monitorAfter run.monitor (some read)
        changes := run.changes ++
          announced (run.monitor.work.poll read).1 (run.monitor.work.poll read).2
        monitorErrors := errors
        log := run.log ++ entries } := by
  obtain ⟨errors, telling, made, told⟩ := tellErrors_eq now (run.poll now)
  refine ⟨errors, _, (madeBy_pollEntries now (run.monitor.work.poll read).2).append made, ?_⟩
  rw [told]
  simp only [poll, ← reads, death?_poll, monitorAfter, announced]
  cases (run.monitor.work.poll read).2 <;> simp

/-- What the poll of an instant makes of a run. -/
theorem pollDue_eq (now : Instant) (run : LiveRun EventType Own) {read : Except FileFault Bytes}
    (reads : read = run.workspace.files.read run.monitor.work.path)
    (due : run.monitor.state.isWorking = true ∧ run.nextPoll ≤ now) :
    ∃ errors entries, MadeBy now entries ∧ run.pollDue now =
      { run with
        nextPoll := now + run.checkInterval.seconds
        monitor := monitorAfter run.monitor (some read)
        changes := run.changes ++
          announced (run.monitor.work.poll read).1 (run.monitor.work.poll read).2
        monitorErrors := errors
        log := run.log ++ entries } := by
  unfold pollDue
  rw [if_pos (by simpa using due)]
  exact poll_eq now { run with nextPoll := now + run.checkInterval.seconds } reads

theorem pollDue_of_not (now : Instant) (run : LiveRun EventType Own)
    (early : ¬(run.monitor.state.isWorking = true ∧ run.nextPoll ≤ now)) :
    run.pollDue now = run := by
  unfold pollDue
  exact if_neg (by simpa using early)

/-!
## All that happens at an instant
-/

section Turns

variable {World : Type} {tick : Ticker EventType World} {clock : Clock} {now : Instant}
  {world last : World} {tasks left : List (Supervised (LoopTask EventType))}
  {operations : List (LoopKind × Option OperationFault)}

/-- A fault ends the program exactly if an operation fails with it. -/
theorem lost_turns_iff (turns : Turns tick clock now world tasks operations last left)
    (kept : ∀ task ∈ tasks, ¬IsLost task.state) :
    (∃ task ∈ left, IsLost task.state) ↔
      ∃ fault ∈ Observed.deathsOf operations, fault.reach = .final := by
  have lives : ¬IsLost .working := not_isLost_of_isWorking rfl
  induction turns with
  | done => simp [Observed.deathsOf]
  | rests _ _ ih =>
      obtain ⟨own, others⟩ := List.forall_mem_cons.mp kept
      rw [List.exists_mem_cons_iff, or_iff_right own]
      exact ih others
  | reports _ _ _ ih =>
      rw [List.exists_mem_cons_iff, or_iff_right lives]
      exact ih (List.forall_mem_cons.mp kept).2
  | operates _ _ _ quiet _ ih =>
      rw [List.exists_mem_cons_iff, or_iff_right lives]
      simpa [Observed.deathsOf, quiet] using ih (List.forall_mem_cons.mp kept).2
  | dies _ _ _ handled _ ih =>
      rw [List.exists_mem_cons_iff, isLost_died, or_iff_right handled]
      simpa [Observed.deathsOf, OperationFault.unexpected?, handled] using
        ih (List.forall_mem_cons.mp kept).2
  | ends _ _ _ final =>
      rw [List.exists_mem_cons_iff, isLost_died]
      simp [Observed.deathsOf, OperationFault.unexpected?, final]

/-- Of loops at work those die whose operations fail unexpectedly. -/
theorem deaths_turns (turns : Turns tick clock now world tasks operations last left)
    (work : ∀ task ∈ tasks, task.state.isWorking = true) :
    left.filterMap (fun task => task.state.death?) = Observed.deathsOf operations := by
  induction turns with
  | done => rfl
  | rests _ _ ih =>
      obtain ⟨own, others⟩ := List.forall_mem_cons.mp work
      simpa [List.filterMap_cons, death?_of_isWorking own] using ih others
  | reports _ _ _ ih =>
      simpa [List.filterMap_cons, TaskState.death?] using ih (List.forall_mem_cons.mp work).2
  | operates _ _ _ quiet _ ih =>
      simpa [List.filterMap_cons, TaskState.death?, Observed.deathsOf, quiet] using
        ih (List.forall_mem_cons.mp work).2
  | dies _ _ _ _ _ ih =>
      simpa [List.filterMap_cons, TaskState.death?, Observed.deathsOf, OperationFault.unexpected?]
        using ih (List.forall_mem_cons.mp work).2
  | ends =>
      have others := (List.forall_mem_cons.mp work).2
      simpa [List.filterMap_cons, TaskState.death?, Observed.deathsOf, OperationFault.unexpected?]
        using fun task member => death?_of_isWorking (others task member)

/-- Loops at work of which none dies go on working, with the cadences of their wake-ups. -/
theorem cadences_turns (turns : Turns tick clock now world tasks operations last left)
    (work : ∀ task ∈ tasks, task.state.isWorking = true)
    (alive : Observed.deathsOf operations = []) :
    (∀ task ∈ left, task.state.isWorking = true) ∧
      left.map (fun task => task.work.cadence) =
        tasks.map fun task => cadenceAfter now task.work.cadence := by
  induction turns with
  | done => simp
  | rests waits _ ih =>
      obtain ⟨own, others⟩ := List.forall_mem_cons.mp work
      obtain ⟨lives, cadences⟩ := ih others alive
      have early := (not_and.mp waits) own
      exact ⟨List.forall_mem_cons.mpr ⟨own, lives⟩, by simp [cadences, cadenceAfter, early]⟩
  | reports wakes _ _ ih =>
      obtain ⟨lives, cadences⟩ := ih (List.forall_mem_cons.mp work).2 alive
      exact ⟨List.forall_mem_cons.mpr ⟨rfl, lives⟩, by
        simp [cadences, cadenceAfter, wakes.2, LoopTask.goOn]⟩
  | operates wakes _ _ quiet _ ih =>
      obtain ⟨lives, cadences⟩ := ih (List.forall_mem_cons.mp work).2
        (by simpa [Observed.deathsOf, quiet] using alive)
      exact ⟨List.forall_mem_cons.mpr ⟨rfl, lives⟩, by
        simp [cadences, cadenceAfter, wakes.2, LoopTask.goOn]⟩
  | dies => simp [Observed.deathsOf, OperationFault.unexpected?] at alive
  | ends => simp [Observed.deathsOf, OperationFault.unexpected?] at alive

/-- Loops that have no turn perform nothing and stay as they are. -/
theorem idle_turns (turns : Turns tick clock now world tasks operations last left)
    (idle : ∀ task ∈ tasks, ¬TakesTurn now task) : operations = [] ∧ left = tasks := by
  induction turns with
  | done => exact ⟨rfl, rfl⟩
  | rests _ _ ih =>
      obtain ⟨none, same⟩ := ih (List.forall_mem_cons.mp idle).2
      exact ⟨none, by rw [same]⟩
  | reports wakes | operates wakes | dies wakes | ends wakes =>
      exact absurd wakes (List.forall_mem_cons.mp idle).1

end Turns

/-- What an instant puts on the queues of a run. -/
structure Tells (now : Instant) (old : LiveRun EventType Own) (observed : Observed)
    (new : LiveRun EventType Own) : Prop where
  errors : new.errors = old.errors ++ observed.failures
  changes : ∃ paths, new.changes = old.changes ++ paths ∧
    (paths ≠ [] ↔ observed.Differs old.monitor.work)
  log : MadeBy now old.log → MadeBy now new.log

section Passes

variable {now : Instant} {run worked : LiveRun EventType Own} {world : Workspace × Own}
  {operations : List (LoopKind × Option OperationFault)}
  {left : List (Supervised (LoopTask EventType))} {entries : List LogEntry}

/-- A run whose actions and loops are done at an instant. -/
structure HasWorked (now : Instant) (run : LiveRun EventType Own)
    (operations : List (LoopKind × Option OperationFault)) (worked : LiveRun EventType Own) : Prop where
  turns : Turns run.tick (run.clock now) now
    (RunPlan.workspaceAt run.workspace run.actions now, run.own) run.loops operations
    (worked.workspace, worked.own) worked.loops
  actions : worked.actions = run.actions.dropWhile fun scheduled => scheduled.time ≤ now
  shutdown : worked.shutdown = true ↔ run.shutdown = true ∨
    ∃ scheduled ∈ run.actions, scheduled.time ≤ now ∧ scheduled.action.isRequest = true
  errors : worked.errors = run.errors ++ Observed.failuresOf operations
  log : MadeBy now run.log → MadeBy now worked.log
  monitor : worked.monitor = run.monitor
  nextPoll : worked.nextPoll = run.nextPoll
  changes : worked.changes = run.changes
  tick : worked.tick = run.tick
  clock : worked.clock = run.clock
  checkInterval : worked.checkInterval = run.checkInterval
  connection : worked.connection = run.connection

theorem exists_hasWorked (now : Instant) (run : LiveRun EventType Own) (ordered : InOrder run.actions)
    (goesOn : run.final? = none) :
    ∃ operations, HasWorked now run operations
      (wakeAll now (run.actAll now).loops { run.actAll now with loops := [] }) := by
  obtain ⟨acting, actingMade, acted⟩ := actAll_eq now run ordered
  obtain ⟨loops, monitor⟩ := (final?_eq_none_iff run).mp goesOn
  obtain ⟨operations, world, left, entries, turns, made, woken⟩ :=
    serves_wakeAll now run.loops { run.actAll now with loops := [] }
      ((final?_eq_none_iff _).mpr ⟨by simp, by rw [acted]; exact monitor⟩) loops
  have same : (run.actAll now).loops = run.loops := by rw [acted]
  rw [acted] at turns
  rw [same, woken, acted]
  exact ⟨operations, {
    turns, actions := rfl
    shutdown := by simp
    errors := rfl
    log := fun given => (given.append actingMade).append made
    monitor := rfl, nextPoll := rfl, changes := rfl, tick := rfl, clock := rfl
    checkInterval := rfl, connection := rfl }⟩

/-- Without a poll an instant brings what the operations return. -/
theorem HasWorked.passes_unread (done : HasWorked now run operations worked)
    (unread : ¬(run.monitor.state.isWorking = true ∧ run.nextPoll ≤ now ∧
      ¬∃ fault ∈ Observed.deathsOf operations, fault.reach = .final)) :
    Passes now run { operations } worked ∧ Tells now run { operations } worked := by
  refine ⟨?_, done.errors, ⟨[], ?_, ?_⟩, done.log⟩
  · exact {
      turns := done.turns
      polled := by simpa using unread
      read := by simp
      monitor := done.monitor
      nextPoll := done.nextPoll
      actions := done.actions
      shutdown := done.shutdown
      tick := done.tick
      clock := done.clock
      checkInterval := done.checkInterval
      connection := done.connection }
  · rw [List.append_nil]
    exact done.changes
  · simp [Observed.Differs]

/-- A poll brings what it reads. -/
theorem HasWorked.passes_read (done : HasWorked now run operations worked)
    (works : run.monitor.state.isWorking = true) (due : run.nextPoll ≤ now)
    (handled : ¬∃ fault ∈ Observed.deathsOf operations, fault.reach = .final) :
    let observed : Observed :=
      { operations, read := some (worked.workspace.files.read run.monitor.work.path) }
    Passes now run observed (worked.pollDue now) ∧ Tells now run observed (worked.pollDue now) := by
  obtain ⟨_, entries, made, polled⟩ := pollDue_eq now worked rfl
    ⟨by rwa [done.monitor], by rwa [done.nextPoll]⟩
  intro observed
  rw [polled]
  refine ⟨?_, done.errors, ⟨_, congrArg (· ++ _) done.changes, ?_⟩,
    fun given => (done.log given).append made⟩
  · exact {
      turns := done.turns
      polled := by simpa [observed] using ⟨works, due, by simpa using handled⟩
      read := by simp [observed]
      monitor := by simp only [observed, done.monitor]
      nextPoll := by simp [observed, done.checkInterval]
      actions := done.actions
      shutdown := done.shutdown
      tick := done.tick
      clock := done.clock
      checkInterval := done.checkInterval
      connection := done.connection }
  · rw [done.monitor]
    exact announced_poll_iff _ _

/-- An instant makes of a run what the instant brings. -/
theorem exists_passes (now : Instant) (run : LiveRun EventType Own) (ordered : InOrder run.actions)
    (goesOn : run.final? = none) :
    ∃ observed, Passes now run observed (run.advance now) ∧
      Tells now run observed (run.advance now) := by
  obtain ⟨operations, done⟩ := exists_hasWorked now run ordered goesOn
  obtain ⟨loops, monitor⟩ := (final?_eq_none_iff run).mp goesOn
  have advanced : run.advance now =
      if (wakeAll now (run.actAll now).loops { run.actAll now with loops := [] }).final?.isSome then
        wakeAll now (run.actAll now).loops { run.actAll now with loops := [] }
      else (wakeAll now (run.actAll now).loops { run.actAll now with loops := [] }).pollDue now := rfl
  rw [advanced]
  generalize wakeAll now (run.actAll now).loops { run.actAll now with loops := [] } = worked at done
  have final : worked.final?.isSome = true ↔
      ∃ fault ∈ Observed.deathsOf operations, fault.reach = .final := by
    rw [← lost_turns_iff done.turns loops, ← Option.ne_none_iff_isSome, Ne, final?_eq_none_iff,
      done.monitor]
    simp [monitor]
  by_cases lost : ∃ fault ∈ Observed.deathsOf operations, fault.reach = .final
  · rw [if_pos (final.mpr lost)]
    exact ⟨_, done.passes_unread fun due => due.2.2 lost⟩
  · rw [if_neg (final.not.mpr lost)]
    by_cases due : run.monitor.state.isWorking = true ∧ run.nextPoll ≤ now
    · exact ⟨_, done.passes_read due.1 due.2 lost⟩
    · rw [pollDue_of_not now worked (by rwa [done.monitor, done.nextPoll])]
      exact ⟨_, done.passes_unread fun polls => due ⟨polls.1, polls.2.1⟩⟩

end Passes

end LiveRun

end EventForge
