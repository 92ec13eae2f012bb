import EventForge.Load.TimedLoop
import EventForge.Proofs.Load.Attempts
import Mathlib.Algebra.Ring.Nat

/-!
# The counters of a loop

A loop wakes again and again, each time at an instant and in a world that are not its own choice.
Whatever becomes of its operations, the counters that it reported and those that it still holds add up
to the operations that succeeded and to their rows.  A failure that is reported leaves the counters
and the cadence as they are.
-/

namespace EventForge

/-- An instant at which a loop wakes, and what happened to the world since it slept. -/
structure WakeUp (World : Type) where
  time : Instant
  meanwhile : World → World

/-- An operation that a loop attempts: the world in which it is performed, the operation or why there
is none, what becomes of it, and the world after it. -/
structure Attempt (World : Type) where
  time : Instant
  before : World
  operation : Except Fault LoadOperation
  outcome : Except OperationFault Nat
  after : World

/-- What became of a loop that woke some times. -/
structure LoopRun (World : Type) where
  task : LoopTask EventClass
  world : World
  attempts : List (Attempt World) := []
  /-- The errors on the queue. -/
  errors : List Fault := []
  /-- The counters that were reported. -/
  reports : List LoopStats := []
  /-- The failure that ended the loop, if one did. -/
  death : Option Fault := none

namespace LoadLoop

/-- What becomes of the next operation of a loop. -/
def outcome {World : Type} (perform : Performer World) (clock : Clock) (world : World)
    (loop : LoadLoop) : Except OperationFault Nat :=
  match (nextOperation clock loop).1 with
  | .ok operation => (perform world operation).1
  | .error fault => .error (.unexpected fault)

@[simp] theorem stats_newEvent (clock : Clock) (loop : LoadLoop) :
    (newEvent clock loop).2.stats = loop.stats := rfl

@[simp] theorem stats_newQuery (clock : Clock) (loop : LoadLoop) :
    (newQuery clock loop).2.stats = loop.stats := by
  have kept := stats_newEvent clock loop
  unfold newQuery
  split
  · rename_i drawn
    rwa [drawn] at kept
  · rename_i drawn
    rw [drawn] at kept
    exact kept

@[simp] theorem stats_nextOperation (clock : Clock) (loop : LoadLoop) :
    (nextOperation clock loop).2.stats = loop.stats := by
  unfold nextOperation
  cases loop.kind with
  | writer => exact stats_newEvent clock loop
  | reader => exact stats_newQuery clock loop

variable {World : Type} (perform : Performer World) (clock : Clock) (world : World)

/-- An operation that succeeds is counted with its rows. -/
theorem tick_of_ok (loop : LoadLoop) (rows : Nat)
    (succeeds : outcome perform clock world loop = .ok rows) :
    (tick perform clock world loop).1 = none ∧
      (tick perform clock world loop).2.1.stats =
        { operations := loop.stats.operations + 1, rows := loop.stats.rows + rows } := by
  have kept := stats_nextOperation clock loop
  unfold outcome at succeeds
  unfold tick
  split at succeeds
  · rename_i operation chosen
    split
    · rename_i refused
      rw [refused] at chosen
      cases chosen
    · rename_i following given
      rw [given] at chosen kept
      obtain rfl := Except.ok.inj chosen
      split
      · rename_i found done
        rw [done] at succeeds
        obtain rfl := Except.ok.inj succeeds
        simp only [TypedLoop.count]
        exact ⟨trivial, by rw [kept]⟩
      · rename_i failed
        rw [failed] at succeeds
        cases succeeds
  · cases succeeds

/-- An operation that fails is not counted. -/
theorem tick_of_error (loop : LoadLoop) (fault : OperationFault)
    (fails : outcome perform clock world loop = .error fault) :
    (tick perform clock world loop).1 = some fault ∧
      (tick perform clock world loop).2.1.stats = loop.stats := by
  have kept := stats_nextOperation clock loop
  unfold outcome at fails
  unfold tick
  split at fails
  · rename_i operation chosen
    split
    · rename_i refused
      rw [refused] at chosen
      cases chosen
    · rename_i following given
      rw [given] at chosen kept
      obtain rfl := Except.ok.inj chosen
      split
      · rename_i done
        rw [done] at fails
        cases fails
      · rename_i failed
        rw [failed] at fails
        obtain rfl := Except.error.inj fails
        exact ⟨rfl, kept⟩
  · rename_i refusal chosen
    obtain rfl := Except.error.inj fails
    split
    · rename_i given
      rw [given] at chosen kept
      obtain rfl := Except.error.inj chosen
      exact ⟨rfl, kept⟩
    · rename_i given
      rw [given] at chosen
      cases chosen

/-- The attempt of a loop at its next operation. -/
def attempt (time : Instant) (loop : LoadLoop) : Attempt World :=
  { time, before := world, operation := (nextOperation clock loop).1
    outcome := outcome perform clock world loop, after := (tick perform clock world loop).2.2 }

end LoadLoop

namespace LoopRun

variable {World : Type} (perform : Performer World) (clock : Instant → Clock)

/-- A loop that has not woken yet. -/
def begin (task : LoopTask EventClass) (world : World) : LoopRun World := { task, world }

/-- The attempt of a loop that wakes at its operation, if one is due. -/
def attempt? (wakeUp : WakeUp World) (run : LoopRun World) : Option (Attempt World) :=
  if run.task.cadence.operationDue wakeUp.time then
    some (LoadLoop.attempt perform (clock wakeUp.time) (wakeUp.meanwhile run.world) wakeUp.time
      run.task.loop)
  else none

/-- A loop after it woke once more; one that died does not wake. -/
def wake (run : LoopRun World) (wakeUp : WakeUp World) : LoopRun World :=
  if run.death.isSome then run
  else
    let woken := run.task.wake (LoadLoop.tick perform) (clock wakeUp.time) wakeUp.time
      (wakeUp.meanwhile run.world)
    { task := woken.task
      world := woken.world
      attempts := run.attempts ++ (run.attempt? perform clock wakeUp).toList
      errors :=
        match woken.fault with
        | some (.reported fault) => run.errors ++ [fault]
        | some (.unexpected _) | none => run.errors
      reports := run.reports ++ woken.report.toList
      death :=
        match woken.fault with
        | some (.unexpected fault) => some fault
        | some (.reported _) | none => none }

/-- A loop after it woke some more times. -/
def wakeAll (run : LoopRun World) (wakeUps : List (WakeUp World)) : LoopRun World :=
  wakeUps.foldl (wake perform clock) run

/-- The counters that were reported and those that are still held. -/
def operations (run : LoopRun World) : Nat :=
  (run.reports.map LoopStats.operations).sum + run.task.loop.stats.operations

def rows (run : LoopRun World) : Nat :=
  (run.reports.map LoopStats.rows).sum + run.task.loop.stats.rows

/-- What the operations that succeeded count as rows. -/
def successes (run : LoopRun World) : List Nat :=
  run.attempts.filterMap fun attempt => attempt.outcome.toOption

/-- The failure of an operation that is reported. -/
def reported? : Except OperationFault Nat → Option Fault
  | .error (.reported fault) => some fault
  | _ => none

theorem eq_of_reported? {outcome : Except OperationFault Nat} {fault : Fault}
    (reported : reported? outcome = some fault) : outcome = .error (.reported fault) := by
  match outcome with
  | .ok found => cases reported
  | .error (.reported failure) => rw [Option.some.inj reported]
  | .error (.unexpected failure) => cases reported

/-- Whether a failure is none that is reported. -/
def isUnexpected : Except OperationFault Nat → Bool
  | .error (.unexpected _) => true
  | _ => false

/-- The failures that are reported, in their order. -/
def failures (run : LoopRun World) : List Fault :=
  run.attempts.filterMap fun attempt => reported? attempt.outcome

/-- Whether the counters and the errors of a run are those of its operations. -/
structure IsConserved (run : LoopRun World) : Prop where
  operations : run.operations = run.successes.length
  rows : run.rows = run.successes.sum
  errors : run.errors = run.failures
  lives : run.death = none ↔ ∀ attempt ∈ run.attempts, isUnexpected attempt.outcome = false

section Wake

variable {perform clock} {run : LoopRun World} {wakeUp : WakeUp World} (alive : run.death = none)

include alive

/-- A loop that wakes when no operation is due. -/
theorem wake_idle (nothing : run.attempt? perform clock wakeUp = none) :
    let next := run.wake perform clock wakeUp
    next.attempts = run.attempts ∧ next.errors = run.errors ∧ next.death = none ∧
      next.operations = run.operations ∧ next.rows = run.rows ∧
      next.task.cadence = run.task.cadence.wake wakeUp.time := by
  have early : run.task.cadence.operationDue wakeUp.time = false := by
    simpa [attempt?] using nothing
  simp only [wake, alive, nothing, LoopTask.wake, LoopTask.operate, early, Option.isSome_none,
    Bool.false_eq_true, if_false]
  cases run.task.cadence.reportDue wakeUp.time with
  | false => simp [operations, rows]
  | true => simp [operations, rows, TypedLoop.report]

variable {attempt : Attempt World} (tried : run.attempt? perform clock wakeUp = some attempt)

include tried

omit alive in
theorem attempt_of_tried : run.task.cadence.operationDue wakeUp.time = true ∧
    attempt = LoadLoop.attempt perform (clock wakeUp.time) (wakeUp.meanwhile run.world) wakeUp.time
      run.task.loop := by
  unfold attempt? at tried
  split at tried
  · rename_i due
    exact ⟨due, (Option.some.inj tried).symm⟩
  · cases tried

/-- What a loop does that wakes for an operation, by what the operation comes to. -/
theorem wake_attempt :
    let next := run.wake perform clock wakeUp
    next.attempts = run.attempts ++ [attempt] ∧ attempt.before = wakeUp.meanwhile run.world ∧
      next.world = attempt.after := by
  obtain ⟨due, rfl⟩ := attempt_of_tried tried
  refine ⟨?_, rfl, ?_⟩
  · simp [wake, alive, tried]
  · simp only [wake, alive, LoopTask.wake, LoopTask.operate, due, if_true, Option.isSome_none,
      Bool.false_eq_true, if_false, LoadLoop.attempt]
    split
    · rename_i operated
      rw [operated]
    · rename_i operated
      rw [operated]
      split <;> rfl

/-- A loop whose operation succeeds counts it once. -/
theorem wake_success (found : Nat) (succeeds : attempt.outcome = .ok found) :
    let next := run.wake perform clock wakeUp
    next.errors = run.errors ∧ next.death = none ∧ next.operations = run.operations + 1 ∧
      next.rows = run.rows + found ∧ next.task.cadence = run.task.cadence.wake wakeUp.time := by
  obtain ⟨due, rfl⟩ := attempt_of_tried tried
  obtain ⟨noFault, counted⟩ := LoadLoop.tick_of_ok perform (clock wakeUp.time) _ _ found succeeds
  rcases ticked : LoadLoop.tick perform (clock wakeUp.time) (wakeUp.meanwhile run.world)
    run.task.loop with ⟨fault, loop, world⟩
  simp only [ticked] at noFault counted
  obtain rfl : fault = none := noFault
  simp only [wake, alive, LoopTask.wake, LoopTask.operate, due, ticked, if_true,
    Option.isSome_none, Bool.false_eq_true, if_false]
  cases run.task.cadence.reportDue wakeUp.time with
  | false => simp [operations, rows, counted, Nat.add_assoc]
  | true => simp [operations, rows, TypedLoop.report, counted, Nat.add_assoc]

/-- A loop whose operation fails with a failure that is reported goes on as if nothing happened, but
for the error on the queue. -/
theorem wake_failure (fault : Fault) (fails : attempt.outcome = .error (.reported fault)) :
    let next := run.wake perform clock wakeUp
    next.errors = run.errors ++ [fault] ∧ next.death = none ∧ next.operations = run.operations ∧
      next.rows = run.rows ∧ next.task.cadence = run.task.cadence.wake wakeUp.time := by
  obtain ⟨due, rfl⟩ := attempt_of_tried tried
  obtain ⟨itsFault, kept⟩ := LoadLoop.tick_of_error perform (clock wakeUp.time) _ _ _ fails
  rcases ticked : LoadLoop.tick perform (clock wakeUp.time) (wakeUp.meanwhile run.world)
    run.task.loop with ⟨found, loop, world⟩
  simp only [ticked] at itsFault kept
  obtain rfl : found = some (.reported fault) := itsFault
  simp only [wake, alive, LoopTask.wake, LoopTask.operate, due, ticked, if_true,
    Option.isSome_none, Bool.false_eq_true, if_false]
  cases run.task.cadence.reportDue wakeUp.time with
  | false => simp [operations, rows, kept]
  | true => simp [operations, rows, TypedLoop.report, kept]

/-- A loop whose operation fails otherwise dies, and counts nothing. -/
theorem wake_death (fault : Fault) (fails : attempt.outcome = .error (.unexpected fault)) :
    let next := run.wake perform clock wakeUp
    next.errors = run.errors ∧ next.death = some fault ∧ next.operations = run.operations ∧
      next.rows = run.rows := by
  obtain ⟨due, rfl⟩ := attempt_of_tried tried
  obtain ⟨itsFault, kept⟩ := LoadLoop.tick_of_error perform (clock wakeUp.time) _ _ _ fails
  rcases ticked : LoadLoop.tick perform (clock wakeUp.time) (wakeUp.meanwhile run.world)
    run.task.loop with ⟨found, loop, world⟩
  simp only [ticked] at itsFault kept
  obtain rfl : found = some (.unexpected fault) := itsFault
  simp only [wake, alive, LoopTask.wake, LoopTask.operate, due, ticked, if_true,
    Option.isSome_none, Bool.false_eq_true, if_false]
  simp [operations, rows, kept]

end Wake

theorem wake_of_death {run : LoopRun World} (fault : Fault) (dead : run.death = some fault)
    (wakeUp : WakeUp World) : run.wake perform clock wakeUp = run := by
  simp [wake, dead]

theorem IsConserved.wake {run : LoopRun World} (conserved : run.IsConserved)
    (wakeUp : WakeUp World) : (run.wake perform clock wakeUp).IsConserved := by
  cases dead : run.death with
  | some fault => rwa [wake_of_death perform clock fault dead]
  | none =>
      have untroubled := conserved.lives.mp dead
      cases tried : run.attempt? perform clock wakeUp with
      | none =>
          obtain ⟨attempts, errors, alive, operations, rows, _⟩ := wake_idle dead tried
          constructor
          · rw [operations, successes, attempts]; exact conserved.operations
          · rw [rows, successes, attempts]; exact conserved.rows
          · rw [errors, failures, attempts]; exact conserved.errors
          · rw [alive, attempts]; simpa using untroubled
      | some attempt =>
          obtain ⟨attempts, _, _⟩ := wake_attempt dead tried
          cases outcome : attempt.outcome with
          | ok found =>
              obtain ⟨errors, alive, operations, rows, _⟩ := wake_success dead tried found outcome
              have more : (run.wake perform clock wakeUp).successes = run.successes ++ [found] := by
                simp [successes, attempts, outcome, Except.toOption]
              constructor
              · rw [operations, more, conserved.operations, List.length_append]; rfl
              · rw [rows, more, conserved.rows, List.sum_append, List.sum_singleton]
              · rw [errors, conserved.errors]; simp [failures, attempts, outcome, reported?]
              · simpa [alive, attempts, or_imp, forall_and, outcome, isUnexpected] using untroubled
          | error failure =>
              have same : (run.wake perform clock wakeUp).successes = run.successes := by
                simp [successes, attempts, outcome, Except.toOption]
              cases failure with
              | reported fault =>
                  obtain ⟨errors, alive, operations, rows, _⟩ := wake_failure dead tried fault outcome
                  constructor
                  · rw [operations, same]; exact conserved.operations
                  · rw [rows, same]; exact conserved.rows
                  · rw [errors, conserved.errors]; simp [failures, attempts, outcome, reported?]
                  · simpa [alive, attempts, or_imp, forall_and, outcome, isUnexpected]
                      using untroubled
              | unexpected fault =>
                  obtain ⟨errors, died, operations, rows⟩ := wake_death dead tried fault outcome
                  constructor
                  · rw [operations, same]; exact conserved.operations
                  · rw [rows, same]; exact conserved.rows
                  · rw [errors, conserved.errors]; simp [failures, attempts, outcome, reported?]
                  · simp [died, attempts, or_imp, forall_and, outcome, isUnexpected]

theorem IsConserved.wakeAll {run : LoopRun World} (conserved : run.IsConserved)
    (wakeUps : List (WakeUp World)) : (run.wakeAll perform clock wakeUps).IsConserved := by
  induction wakeUps generalizing run with
  | nil => exact conserved
  | cons wakeUp wakeUps ih => exact ih (conserved.wake perform clock wakeUp)

/-- The instants among some wake-ups at which a loop is to begin an operation. -/
def dueTimes : Cadence → List Instant → List Instant
  | _, [] => []
  | cadence, now :: later =>
      (if cadence.operationDue now then [now] else []) ++ dueTimes (cadence.wake now) later

theorem times_attempt? (run : LoopRun World) (wakeUp : WakeUp World) :
    (run.attempt? perform clock wakeUp).toList.map Attempt.time =
      if run.task.cadence.operationDue wakeUp.time then [wakeUp.time] else [] := by
  unfold attempt?
  cases run.task.cadence.operationDue wakeUp.time <;> rfl

/-- A loop that goes on has the cadence that its wake-ups alone give it. -/
theorem cadence_wake {run : LoopRun World} (wakeUp : WakeUp World) (alive : run.death = none)
    (goesOn : (run.wake perform clock wakeUp).death = none) :
    (run.wake perform clock wakeUp).task.cadence = run.task.cadence.wake wakeUp.time := by
  cases tried : run.attempt? perform clock wakeUp with
  | none => exact (wake_idle alive tried).2.2.2.2.2
  | some attempt =>
      cases outcome : attempt.outcome with
      | ok found => exact (wake_success alive tried found outcome).2.2.2.2
      | error failure =>
          cases failure with
          | reported fault => exact (wake_failure alive tried fault outcome).2.2.2.2
          | unexpected fault =>
              rw [(wake_death alive tried fault outcome).2.1] at goesOn
              cases goesOn

/-- A loop that died stays as it is. -/
theorem wakeAll_of_death {run : LoopRun World} (fault : Fault) (dead : run.death = some fault)
    (wakeUps : List (WakeUp World)) : run.wakeAll perform clock wakeUps = run := by
  induction wakeUps with
  | nil => rfl
  | cons wakeUp wakeUps ih =>
      rw [wakeAll, List.foldl_cons, wake_of_death perform clock fault dead]
      exact ih

/-- A loop that goes on begins its operations at the instants that its wake-ups alone give it,
whatever becomes of them. -/
theorem times_wakeAll (run : LoopRun World) (wakeUps : List (WakeUp World))
    (alive : run.death = none) (goesOn : (run.wakeAll perform clock wakeUps).death = none) :
    (run.wakeAll perform clock wakeUps).attempts.map Attempt.time =
        run.attempts.map Attempt.time ++ dueTimes run.task.cadence (wakeUps.map WakeUp.time) ∧
      (run.wakeAll perform clock wakeUps).task.cadence =
        (wakeUps.map WakeUp.time).foldl Cadence.wake run.task.cadence := by
  induction wakeUps generalizing run with
  | nil => simp [wakeAll, dueTimes]
  | cons wakeUp wakeUps ih =>
      have still : (run.wake perform clock wakeUp).death = none := by
        cases dead : (run.wake perform clock wakeUp).death with
        | none => rfl
        | some fault =>
            rw [wakeAll, List.foldl_cons, ← wakeAll,
              wakeAll_of_death perform clock fault dead wakeUps, dead] at goesOn
            cases goesOn
      have begun : (run.wake perform clock wakeUp).attempts.map Attempt.time =
          run.attempts.map Attempt.time ++
            (if run.task.cadence.operationDue wakeUp.time then [wakeUp.time] else []) := by
        rw [← times_attempt? perform clock run wakeUp, ← List.map_append]
        simp [wake, alive]
      obtain ⟨times, cadence⟩ := ih (run.wake perform clock wakeUp) still goesOn
      rw [cadence_wake perform clock wakeUp alive still] at times cadence
      rw [begun] at times
      exact ⟨by rw [List.map_cons, dueTimes, ← List.append_assoc]; exact times, cadence⟩

theorem isConserved_begin (task : LoopTask EventClass) (world : World)
    (fresh : task.loop.stats = {}) : (begin task world).IsConserved := by
  constructor <;> simp [begin, operations, rows, successes, failures, fresh]

/-!
## Loops in time
-/

/-- Whether a loop in time has done what a run of wake-ups did. -/
structure Agrees (timed : TimedLoop) (run : LoopRun Rehearsal) : Prop where
  task : timed.task = run.task
  errors : timed.errors.map Prod.snd = run.errors
  death : timed.death = run.death

/-- The wake-up of a loop in time. -/
def timedWakeUp (now : Instant) : WakeUp Rehearsal :=
  { time := now, meanwhile := fun world => { world with now } }

variable (reading : Clock)

theorem agrees_step {timed : TimedLoop} {run : LoopRun Rehearsal} (agrees : Agrees timed run)
    (sameWorld : timed.world = run.world) (alive : run.death = none) (now : Instant) :
    Agrees (timed.step reading now) (run.wake Rehearsal.perform (fun _ => reading) (timedWakeUp now)) ∧
      (timed.step reading now).world =
        (run.wake Rehearsal.perform (fun _ => reading) (timedWakeUp now)).world := by
  have stillAlive : timed.death = none := by rw [agrees.death, alive]
  have errors := agrees.errors
  simp only [TimedLoop.step, wake, alive, Option.isSome_none, Bool.false_eq_true, if_false,
    agrees.task, sameWorld, timedWakeUp]
  generalize run.task.wake (LoadLoop.tick Rehearsal.perform) reading now
    { run.world with now } = woken
  refine ⟨⟨rfl, ?_, ?_⟩, trivial⟩
  · cases woken.fault with
    | none => exact errors
    | some fault =>
        cases fault with
        | reported fault => simp [errors]
        | unexpected fault => exact errors
  · cases woken.fault with
    | none => exact stillAlive
    | some fault =>
        cases fault with
        | reported fault => exact stillAlive
        | unexpected fault => rfl

/-- What one step more does to a loop in time. -/
theorem steps_cases (cancelled : Instant) (fuel : Nat) (last : Bool) (timed : TimedLoop) :
    TimedLoop.steps reading cancelled (fuel + 1) last timed = timed ∨
      (∃ now, TimedLoop.steps reading cancelled (fuel + 1) last timed =
        { timed with world := { timed.world with now } }) ∨
      timed.death = none ∧ ∃ now waits, TimedLoop.steps reading cancelled (fuel + 1) last timed =
        TimedLoop.steps reading cancelled fuel waits (timed.step reading now) := by
  by_cases dead : timed.death.isSome = true
  · exact .inl (if_pos dead)
  · by_cases waits : (last || (decide (timed.world.now < timed.task.cadence.deadline) &&
        decide (cancelled ≤ timed.task.cadence.deadline))) = true
    · exact .inr (.inl ⟨_, (if_neg dead).trans (if_pos waits)⟩)
    · exact .inr (.inr ⟨by simpa using dead, _, _, (if_neg dead).trans (if_neg waits)⟩)

/-- The steps of a loop in time are wake-ups. -/
theorem agrees_steps (cancelled : Instant) (fuel : Nat) (last : Bool) {timed : TimedLoop}
    {run : LoopRun Rehearsal} (agrees : Agrees timed run) (sameWorld : timed.world = run.world) :
    ∃ wakeUps, Agrees (TimedLoop.steps reading cancelled fuel last timed)
      (run.wakeAll Rehearsal.perform (fun _ => reading) wakeUps) := by
  induction fuel generalizing last timed run with
  | zero => exact ⟨[], agrees⟩
  | succ fuel ih =>
      rcases steps_cases reading cancelled fuel last timed with same | ⟨now, paused⟩ |
        ⟨lives, now, waits, stepped⟩
      · exact ⟨[], by rw [same]; exact agrees⟩
      · exact ⟨[], by rw [paused]; exact ⟨agrees.task, agrees.errors, agrees.death⟩⟩
      · have alive : run.death = none := by rw [← agrees.death, lives]
        obtain ⟨next, world⟩ := agrees_step reading agrees sameWorld alive now
        obtain ⟨wakeUps, ended⟩ := ih waits next world
        exact ⟨_ :: wakeUps, by rw [stepped]; exact ended⟩

theorem agrees_run (interval statsInterval : Span) (trials : List Trial)
    (cancellation : TimedLoop.Cancellation) (loop : LoadLoop) :
    ∃ wakeUps, Agrees (TimedLoop.run reading interval statsInterval trials cancellation loop)
      ((begin (LoopTask.start 0 interval statsInterval loop) { trials }).wakeAll
        Rehearsal.perform (fun _ => reading) wakeUps) := by
  let task := LoopTask.start 0 interval statsInterval loop
  let begun : TimedLoop := { task, world := { trials }, log := [task.startEntry 0] }
  have agrees : Agrees begun (begin task { trials }) := ⟨rfl, rfl, rfl⟩
  obtain ⟨wakeUps, ended⟩ := agrees_steps reading cancellation.time
    (TimedLoop.stepBound cancellation.time task.cadence) false agrees rfl
  refine ⟨wakeUps, ?_⟩
  unfold TimedLoop.run
  simp only
  split
  · exact ended
  · exact ⟨ended.task, ended.errors, ended.death⟩

end LoopRun

end EventForge
