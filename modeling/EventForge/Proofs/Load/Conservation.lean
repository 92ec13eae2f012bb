import EventForge.Proofs.Load.Counters
import EventForge.Proofs.Store.RandomEvents
import EventForge.Proofs.Store.Storing

/-!
# What a loop counts on a connection

The counters of a loop are measured against the rows that its stores add to the tables and against
the events that its queries find.  A store that gives up its row is counted all the same, so that a
writer is exact only where nothing that a table declares asks for that.
-/

namespace EventForge

/-- How many rows a table has. -/
def Connection.rowCount (connection : Connection) (name : Text) : Nat :=
  ((connection.database.table? name).map fun table => table.rows.length).getD 0

/-- A random event is one of its class. -/
theorem Event.eventClass_random (eventClass : EventClass) (clock : Clock) (source : RandomSource)
    (event : Event) (drawn : (Event.random eventClass clock source).1 = .ok event) :
    event.eventClass = eventClass := by
  rcases values : eventClass.attributes.mapM (Event.randomValue clock) source with ⟨outcome, later⟩
  cases outcome with
  | error fault =>
      have failed : Event.random eventClass clock source = (.error fault, later) := by
        calc Event.random eventClass clock source
            = ExceptT.bindCont (fun values => (pure { eventClass, values } : Generator.Drawing Event))
                (eventClass.attributes.mapM (Event.randomValue clock) source).1
                (eventClass.attributes.mapM (Event.randomValue clock) source).2 := rfl
          _ = (.error fault, later) := by
              rw [values]
              rfl
      rw [failed] at drawn
      cases drawn
  | ok drawnValues =>
      rw [Event.random, Generator.bind_of_ok values] at drawn
      exact congrArg Event.eventClass (Except.ok.inj drawn).symm

/-- The kind of the loops that perform an operation. -/
def LoadOperation.kind : LoadOperation → LoopKind
  | .store _ => .writer
  | .query _ _ _ => .reader

namespace Attempt

/-- Whether an attempt succeeds. -/
def succeeds (attempt : Attempt Connection) : Bool :=
  match attempt.operation with
  | .ok (.store event) => (event.store attempt.before).isOk
  | .ok (.query event low high) =>
      (Event.retrieve event.eventClass attempt.before (.integer low) (.integer high)).isOk
  | .error _ => false

/-- How many rows an attempt inserts or returns. -/
def rows (attempt : Attempt Connection) : Nat :=
  match attempt.operation with
  | .ok (.store event) =>
      attempt.after.rowCount event.eventClass.table - attempt.before.rowCount event.eventClass.table
  | .ok (.query event low high) =>
      match Event.retrieve event.eventClass attempt.before (.integer low) (.integer high) with
      | .ok found => found.length
      | .error _ => 0
  | .error _ => 0

/-- The error of storage or retrieval that an attempt fails with, if it does. -/
def error? (attempt : Attempt Connection) : Option Fault :=
  match attempt.operation with
  | .ok (.store event) =>
      match event.store attempt.before with
      | .ok _ => none
      | .error error => some error.toFault
  | .ok (.query event low high) =>
      match Event.retrieve event.eventClass attempt.before (.integer low) (.integer high) with
      | .error (.retrieval error) => some error.toFault
      | .error (.escaped _) | .ok _ => none
  | .error _ => none

/-- Whether an attempt to store finds a table that takes rows as they are. -/
def TakesRows (attempt : Attempt Connection) : Prop :=
  ∀ event, attempt.operation = .ok (.store event) →
    attempt.before.database.TakesRows event.eventClass.table event.eventClass.columns

/-- Whether an attempt is that of a loop of a kind over some event types. -/
def IsMade (kind : LoopKind) (types : List (Text × EventClass)) (attempt : Attempt Connection) :
    Prop :=
  ∃ (clock : Clock) (loop : LoadLoop), loop.kind = kind ∧ loop.types = types ∧
    attempt = loop.attempt LoadOperation.perform clock attempt.before attempt.time

variable {kind : LoopKind} {types : List (Text × EventClass)} {attempt : Attempt Connection}

/-- What becomes of an operation that is attempted. -/
theorem IsMade.performed (made : attempt.IsMade kind types) :
    (∃ operation, attempt.operation = .ok operation ∧
        operation.perform attempt.before = (attempt.outcome, attempt.after)) ∨
      ∃ fault, attempt.operation = .error fault ∧ attempt.outcome = .error (.unexpected fault) ∧
        attempt.after = attempt.before := by
  obtain ⟨clock, loop, _, _, same⟩ := made
  have operation : attempt.operation = (LoadLoop.nextOperation clock loop).1 :=
    congrArg Attempt.operation same
  have outcome : attempt.outcome = LoadLoop.outcome LoadOperation.perform clock attempt.before loop :=
    congrArg Attempt.outcome same
  have after : attempt.after = (LoadLoop.tick LoadOperation.perform clock attempt.before loop).2.2 :=
    congrArg Attempt.after same
  rw [(loop.tick_eq LoadOperation.perform clock attempt.before).2] at after
  rw [operation, outcome, after]
  unfold LoadLoop.outcome
  cases (LoadLoop.nextOperation clock loop).1 with
  | ok operation => exact .inl ⟨operation, rfl, rfl⟩
  | error fault => exact .inr ⟨fault, rfl, rfl, rfl⟩

/-- An operation succeeds exactly if the store or the query that it is does, and what is reported is the
error of that. -/
theorem IsMade.outcome (made : attempt.IsMade kind types) :
    attempt.outcome.toOption.isSome = attempt.succeeds ∧
      LoopRun.reported? attempt.outcome = attempt.error? := by
  rcases made.performed with ⟨operation, chosen, performed⟩ | ⟨fault, refused, outcome, _⟩
  · have outcome : attempt.outcome = (operation.perform attempt.before).1 := by rw [performed]
    rw [succeeds, error?, chosen, outcome]
    cases operation with
    | store event =>
        simp only [LoadOperation.perform]
        cases event.store attempt.before <;> exact ⟨rfl, rfl⟩
    | query event low high =>
        simp only [LoadOperation.perform]
        cases Event.retrieve event.eventClass attempt.before (.integer low) (.integer high) with
        | ok found => exact ⟨rfl, rfl⟩
        | error error => cases error <;> exact ⟨rfl, rfl⟩
  · rw [succeeds, error?, refused, outcome]
    exact ⟨rfl, rfl⟩

end Attempt

namespace LoadLoop

/-- The event types that a loop chooses from are its own. -/
theorem class_of_newEvent (clock : Clock) (loop : LoadLoop) (inhabited : loop.types ≠ [])
    (event : Event) (made : (newEvent clock loop).1 = .ok event) :
    ∃ name, (name, event.eventClass) ∈ loop.types := by
  have below := loop.source.below_lt loop.types.length (List.length_pos_of_ne_nil inhabited)
  have drawn : (newEvent clock loop).1 =
      (Event.random (loop.types.getD (loop.source.below loop.types.length).1 default).2 clock
        (loop.source.below loop.types.length).2).1 := rfl
  rw [drawn] at made
  rw [Event.eventClass_random _ clock _ event made, List.getD_eq_getElem?_getD,
    List.getElem?_eq_getElem below, Option.getD_some]
  exact ⟨_, List.getElem_mem below⟩

/-- A tick keeps the kind of a loop and its event types. -/
theorem tick_kept {World : Type} (perform : Performer World) (clock : Clock) (world : World)
    (loop : LoadLoop) : (tick perform clock world loop).2.1.kind = loop.kind ∧
      (tick perform clock world loop).2.1.types = loop.types := by
  obtain ⟨⟨stats, same⟩, _⟩ := loop.tick_eq perform clock world
  rw [same]
  exact nextOperation_kept clock loop

/-- So does a wake-up. -/
theorem wake_kept {World : Type} (perform : Performer World) (clock : Clock) (now : Instant)
    (world : World) (task : LoopTask EventClass) :
    (task.wake (tick perform) clock now world).task.loop.kind = task.loop.kind ∧
      (task.wake (tick perform) clock now world).task.loop.types = task.loop.types := by
  have operated : (task.operate (tick perform) clock now world).2.1.kind = task.loop.kind ∧
      (task.operate (tick perform) clock now world).2.1.types = task.loop.types := by
    unfold LoopTask.operate
    split
    · exact tick_kept perform clock world task.loop
    · exact ⟨rfl, rfl⟩
  unfold LoopTask.wake
  split
  · rename_i same
    rw [same] at operated
    exact operated
  · rename_i same
    rw [same] at operated
    simp only
    split <;> exact operated

end LoadLoop

namespace Attempt

variable {kind : LoopKind} {types : List (Text × EventClass)} {attempt : Attempt Connection}

/-- A writer attempts to store events of its types. -/
theorem IsMade.class_of_store (made : attempt.IsMade kind types) (inhabited : types ≠ [])
    (event : Event) (stores : attempt.operation = .ok (.store event)) :
    ∃ name, (name, event.eventClass) ∈ types := by
  obtain ⟨clock, loop, rfl, rfl, same⟩ := made
  have next : (LoadLoop.nextOperation clock loop).1 = .ok (.store event) :=
    (congrArg Attempt.operation same).symm.trans stores
  cases writes : loop.kind with
  | reader =>
      obtain ⟨_, _, _, query⟩ := LoadLoop.isQuery_of_attempt clock loop writes _ next
      cases query
  | writer =>
      simp only [LoadLoop.nextOperation, writes] at next
      cases drawn : (LoadLoop.newEvent clock loop).1 with
      | error fault =>
          rw [drawn] at next
          cases next
      | ok found =>
          rw [drawn] at next
          obtain rfl : found = event := LoadOperation.store.inj (Except.ok.inj next)
          exact LoadLoop.class_of_newEvent clock loop inhabited found drawn

/-- What a loop attempts is of its kind. -/
theorem IsMade.kind_of_operation (made : attempt.IsMade kind types) (operation : LoadOperation)
    (chosen : attempt.operation = .ok operation) : operation.kind = kind := by
  obtain ⟨clock, loop, rfl, rfl, same⟩ := made
  have next : (LoadLoop.nextOperation clock loop).1 = .ok operation :=
    (congrArg Attempt.operation same).symm.trans chosen
  cases own : loop.kind with
  | writer =>
      obtain ⟨_, rfl⟩ := LoadLoop.isStore_of_attempt clock loop own operation next
      rfl
  | reader =>
      obtain ⟨_, _, _, rfl⟩ := LoadLoop.isQuery_of_attempt clock loop own operation next
      rfl

/-- What an operation counts are the rows that it inserts or returns. -/
theorem IsMade.rows_eq (made : attempt.IsMade kind types) (inhabited : types ≠ [])
    (sound : ∀ entry ∈ types, entry.2.IsSound) (takes : attempt.TakesRows) :
    attempt.outcome.toOption.getD 0 = attempt.rows := by
  rcases made.performed with ⟨operation, chosen, performed⟩ | ⟨fault, refused, outcome, _⟩
  · have outcome : attempt.outcome = (operation.perform attempt.before).1 := by rw [performed]
    have after : attempt.after = (operation.perform attempt.before).2 := by rw [performed]
    rw [rows, chosen, outcome, after]
    cases operation with
    | store event =>
        obtain ⟨name, listed⟩ := made.class_of_store inhabited event chosen
        simp only [LoadOperation.perform]
        cases stored : event.store attempt.before with
        | error error => simp [Except.toOption]
        | ok after =>
            obtain ⟨_, table, row, found, gains, _⟩ :=
              Event.gains_of_store (sound _ listed) (takes event chosen) after stored
            obtain ⟨earlier, later, before, own⟩ := gains.own
            have named : sameName table.name event.eventClass.table = true :=
              Database.table?_some _ _ _ found
            rw [Database.table?_congr _ named] at own
            simp only [Connection.rowCount, own, found, before, Option.map_some, Option.getD_some,
              List.length_append, List.length_cons]
            simp only [Except.toOption, Option.getD_some]
            omega
    | query event low high =>
        simp only [LoadOperation.perform]
        cases Event.retrieve event.eventClass attempt.before (.integer low) (.integer high) with
        | ok found => rfl
        | error error => cases error <;> rfl
  · rw [rows, refused, outcome]
    rfl

end Attempt

namespace LoopRun

variable {kind : LoopKind} {types : List (Text × EventClass)} (clock : Instant → Clock)

/-- Whether the attempts of a run are those of a loop of a kind over some event types. -/
structure IsOf (kind : LoopKind) (types : List (Text × EventClass)) (run : LoopRun Connection) :
    Prop where
  ofKind : run.task.loop.kind = kind
  ofTypes : run.task.loop.types = types
  attempts : ∀ attempt ∈ run.attempts, attempt.IsMade kind types

theorem IsOf.attempt {run : LoopRun Connection} (isOf : run.IsOf kind types)
    {wakeUp : WakeUp Connection} {attempt : Attempt Connection}
    (tried : run.attempt? LoadOperation.perform clock wakeUp = some attempt) :
    attempt.IsMade kind types := by
  obtain ⟨_, rfl⟩ := attempt_of_tried tried
  exact ⟨_, run.task.loop, isOf.ofKind, isOf.ofTypes, rfl⟩

theorem IsOf.wake {run : LoopRun Connection} (isOf : run.IsOf kind types)
    (wakeUp : WakeUp Connection) : (run.wake LoadOperation.perform clock wakeUp).IsOf kind types := by
  cases dead : run.death with
  | some fault => rwa [wake_of_death _ clock fault dead]
  | none =>
      have kept : (run.wake LoadOperation.perform clock wakeUp).task.loop.kind = run.task.loop.kind ∧
          (run.wake LoadOperation.perform clock wakeUp).task.loop.types = run.task.loop.types := by
        simpa [LoopRun.wake, dead] using LoadLoop.wake_kept LoadOperation.perform
          (clock wakeUp.time) wakeUp.time (wakeUp.meanwhile run.world) run.task
      refine ⟨kept.1.trans isOf.ofKind, kept.2.trans isOf.ofTypes, ?_⟩
      have attempts : (run.wake LoadOperation.perform clock wakeUp).attempts =
          run.attempts ++ (run.attempt? LoadOperation.perform clock wakeUp).toList := by
        simp [LoopRun.wake, dead]
      rw [attempts]
      intro attempt member
      rcases List.mem_append.mp member with member | member
      · exact isOf.attempts attempt member
      · exact isOf.attempt clock (Option.mem_toList.mp member)

theorem IsOf.wakeAll {run : LoopRun Connection} (isOf : run.IsOf kind types)
    (wakeUps : List (WakeUp Connection)) :
    (run.wakeAll LoadOperation.perform clock wakeUps).IsOf kind types := by
  induction wakeUps generalizing run with
  | nil => exact isOf
  | cons wakeUp wakeUps ih => exact ih (isOf.wake clock wakeUp)

theorem isOf_begin (task : LoopTask EventClass) (connection : Connection) :
    (begin task connection).IsOf task.loop.kind task.loop.types :=
  ⟨rfl, rfl, by simp [begin]⟩

section Sums

variable {run : LoopRun Connection} (isOf : run.IsOf kind types)

include isOf

theorem length_successes : run.successes.length = (run.attempts.filter Attempt.succeeds).length := by
  rw [successes, List.length_filterMap_eq_countP, List.countP_eq_length_filter,
    List.filter_congr fun attempt member => (isOf.attempts attempt member).outcome.1]

theorem failures_eq : run.failures = run.attempts.filterMap Attempt.error? :=
  List.filterMap_congr fun attempt member => (isOf.attempts attempt member).outcome.2

theorem sum_successes (inhabited : types ≠ []) (sound : ∀ entry ∈ types, entry.2.IsSound)
    (takes : ∀ attempt ∈ run.attempts, attempt.TakesRows) :
    run.successes.sum = (run.attempts.map Attempt.rows).sum := by
  have counts (attempts : List (Attempt Connection)) :
      (attempts.filterMap fun attempt => attempt.outcome.toOption).sum =
        (attempts.map fun attempt => attempt.outcome.toOption.getD 0).sum := by
    induction attempts with
    | nil => rfl
    | cons attempt attempts ih =>
        cases outcome : attempt.outcome.toOption <;> simp [outcome, ih]
  rw [successes, counts, List.map_congr_left fun attempt member =>
    (isOf.attempts attempt member).rows_eq inhabited sound (takes attempt member)]

/-- An attempt neither succeeds nor reports an error exactly if its failure is unexpected. -/
theorem isUnexpected_iff (attempt : Attempt Connection) (member : attempt ∈ run.attempts) :
    isUnexpected attempt.outcome = false ↔
      attempt.succeeds = true ∨ attempt.error?.isSome = true := by
  obtain ⟨succeeds, reports⟩ := (isOf.attempts attempt member).outcome
  rw [← succeeds, ← reports]
  match attempt.outcome with
  | .ok found => simp [isUnexpected, Except.toOption]
  | .error (.reported fault) => simp [isUnexpected, Except.toOption, reported?]
  | .error (.unexpected fault) => simp [isUnexpected, Except.toOption, reported?]

end Sums

end LoopRun

namespace Migration

open Compilation LoopRun

/-- A loop over the events of a module chooses from classes of the module. -/
theorem types_of_make {schema : RawSchema} {sourcePath : Option Text} {compiled : CompiledSchema}
    (made : compileRaw schema sourcePath = .ok compiled) {session : ScriptState}
    {reference path : Text} (loads : (EventModule.ofCompiled compiled).Loads session reference path)
    {kind : LoopKind} {seed : Int} {loop : LoadLoop}
    (isLoop : LoadLoop.make kind (EventModule.ofCompiled compiled).constructors seed = .ok loop) :
    loop.stats = {} ∧ loop.kind = kind ∧ loop.types ≠ [] ∧
      ∀ entry ∈ loop.types, entry.2.IsSound := by
  obtain ⟨accepted, rfl⟩ := of_compileRaw schema sourcePath compiled made
  have plainNames := hasPlainNames_of_loads schema sourcePath accepted session reference path loads
  have inhabited := TypedLoop.ne_nil_of_ofTypes isLoop
  rw [TypedLoop.eq_of_ofTypes isLoop]
  refine ⟨rfl, rfl, inhabited, fun entry member => ?_⟩
  obtain ⟨eventClass, listed, rfl⟩ := List.mem_map.mp ((List.mergeSort_perm _ _).mem_iff.mp member)
  exact (areStorable_moduleOf schema sourcePath accepted plainNames).sound _ listed

/-- However a loop is woken and whatever becomes of its operations, its counters and errors are
theirs. -/
theorem operations_conserved (schema : RawSchema) (sourcePath : Option Text)
    (compiled : CompiledSchema) (made : compileRaw schema sourcePath = .ok compiled)
    (session : ScriptState) (reference path : Text)
    (loads : (EventModule.ofCompiled compiled).Loads session reference path)
    (kind : LoopKind) (seed : Int) (loop : LoadLoop)
    (isLoop : LoadLoop.make kind (EventModule.ofCompiled compiled).constructors seed = .ok loop)
    (interval statsInterval : Span) (start : Instant) (clock : Instant → Clock)
    (connection : Connection) (wakeUps : List (WakeUp Connection)) :
    let task := LoopTask.start start interval statsInterval loop
    let run := (begin task connection).wakeAll LoadOperation.perform clock wakeUps
    run.operations = (run.attempts.filter Attempt.succeeds).length ∧
      ((∀ attempt ∈ run.attempts, attempt.TakesRows) →
        run.rows = (run.attempts.map Attempt.rows).sum) ∧
      run.errors = run.attempts.filterMap Attempt.error? ∧
      (run.death = none ↔
        ∀ attempt ∈ run.attempts, attempt.succeeds = true ∨ attempt.error?.isSome = true) ∧
      (∀ attempt ∈ run.attempts, ∀ operation, attempt.operation = .ok operation →
        operation.kind = kind) ∧
      (run.death = none →
        run.attempts.map Attempt.time = dueTimes task.cadence (wakeUps.map WakeUp.time) ∧
          run.task.cadence = (wakeUps.map WakeUp.time).foldl Cadence.wake task.cadence) ∧
      (∀ wakeUp attempt, run.death = none →
        run.attempt? LoadOperation.perform clock wakeUp = some attempt →
        let next := run.wake LoadOperation.perform clock wakeUp
        next.attempts = run.attempts ++ [attempt] ∧ attempt.before = wakeUp.meanwhile run.world ∧
          next.world = attempt.after ∧
          ∀ fault, attempt.error? = some fault →
            next.errors = run.errors ++ [fault] ∧ next.death = none ∧
              next.operations = run.operations ∧ next.rows = run.rows ∧
              next.task.cadence = run.task.cadence.wake wakeUp.time) ∧
      ∀ reading trials cancellation, ∃ timedWakeUps,
        let timed := (begin (LoopTask.start 0 interval statsInterval loop) { trials }).wakeAll
          Rehearsal.perform (fun _ => reading) timedWakeUps
        Agrees (TimedLoop.run reading interval statsInterval trials cancellation loop) timed ∧
          timed.IsConserved := by
  obtain ⟨fresh, ofKind, inhabited, sound⟩ := types_of_make made loads isLoop
  intro task run
  have conserved : run.IsConserved :=
    (isConserved_begin task connection fresh).wakeAll LoadOperation.perform clock wakeUps
  have isOf : run.IsOf loop.kind loop.types := (isOf_begin task connection).wakeAll clock wakeUps
  refine ⟨?_, ?_, ?_, ?_, ?_, ?_, ?_, ?_⟩
  · rw [conserved.operations, length_successes isOf]
  · intro takes
    rw [conserved.rows, sum_successes isOf inhabited sound takes]
  · rw [conserved.errors, failures_eq isOf]
  · rw [conserved.lives]
    exact forall₂_congr fun attempt member => isUnexpected_iff isOf attempt member
  · intro attempt member operation chosen
    rw [← ofKind]
    exact (isOf.attempts attempt member).kind_of_operation operation chosen
  · intro goesOn
    obtain ⟨times, cadence⟩ :=
      times_wakeAll LoadOperation.perform clock (begin task connection) wakeUps rfl goesOn
    exact ⟨times, cadence⟩
  · intro wakeUp attempt alive tried next
    obtain ⟨attempts, before, after⟩ := wake_attempt alive tried
    refine ⟨attempts, before, after, ?_⟩
    intro fault fails
    have reported := (isOf.attempt clock tried).outcome.2
    rw [fails] at reported
    have outcome : attempt.outcome = .error (.reported fault) := eq_of_reported? reported
    exact wake_failure alive tried fault outcome
  · intro reading trials cancellation
    obtain ⟨timedWakeUps, agrees⟩ :=
      agrees_run reading interval statsInterval trials cancellation loop
    exact ⟨timedWakeUps, agrees, (isConserved_begin _ _ fresh).wakeAll _ _ timedWakeUps⟩

/-- A writer of logins. -/
def loginWriter (source : RandomSource) : LoadLoop where
  kind := .writer
  source
  types := [(("login" : Text), classOf (timedEvent "login"))]

theorem make_loginWriter (seed : Int) :
    LoadLoop.make .writer (moduleOf loginSchema none).constructors seed =
      .ok (loginWriter (RandomSource.ofSeed seed)) := by
  have events : Validation.sortEvents loginSchema.events = [timedEvent "login"] :=
    List.mergeSort_singleton _
  have constructors : (moduleOf loginSchema none).constructors =
      [(("login" : Text), classOf (timedEvent "login"))] := by
    rw [EventModule.constructors.eq_def, classes_moduleOf, events]
    rfl
  rw [constructors, LoadLoop.make, LoadLoop.sorted, List.mergeSort_singleton]
  rfl

/-- The next event of a writer of logins has some time and is created at the present, here the
beginning of the clock. -/
theorem nextOperation_loginWriter (source : RandomSource) : ∃ time : Int, Cell.inRange time = true ∧
    (LoadLoop.nextOperation { nanoseconds := 0 } (loginWriter source)).1 =
      .ok (.store (loginOf (.integer time) (.integer 0))) := by
  have present : Clock.seconds? { nanoseconds := 0 } = some 0 := by decide +kernel
  obtain ⟨integers, later, drawn, draws⟩ := random_classOf (timedEvent "login")
    (acceptsEvent_timedEvent "login" Identifier.isUsable_login) _ 0 present
    (source.below 1).2
  have sorted : Validation.sortFields (timedEvent "login").typeMapping =
      (timedEvent "login").typeMapping := List.mergeSort_singleton _
  rw [fieldsOf, sorted] at draws
  obtain ⟨time, _, ⟨generator, named, made⟩, others, rfl⟩ := List.forall₂_cons_left_iff.mp draws
  obtain rfl : Generator.time = generator := Option.some.inj (Eq.trans (by decide) named)
  obtain ⟨seconds, timed, low, high⟩ := made
  obtain rfl : 0 = seconds := Option.some.inj (present.symm.trans timed)
  obtain ⟨created, _, ⟨generator, named, made⟩, none, rfl⟩ := List.forall₂_cons_left_iff.mp others
  obtain rfl : Generator.clock = generator := Option.some.inj (Eq.trans (by decide) named)
  obtain rfl : created = 0 := made
  obtain rfl := List.forall₂_nil_left_iff.mp none
  refine ⟨time, ?_, ?_⟩
  · have bound : (Generator.jitter : Int) ≤ twoTo 63 := by decide
    simp only [Cell.inRange, Bool.and_eq_true, decide_eq_true_eq]
    omega
  · have first : (source.below 1).1 = 0 := by
      have below := source.below_lt 1 (by decide)
      omega
    have made : (LoadLoop.newEvent { nanoseconds := 0 } (loginWriter source)).1 =
        (Event.random ((loginWriter source).types.getD (source.below 1).1 default).2
          { nanoseconds := 0 } (source.below 1).2).1 := rfl
    have chosen : ((loginWriter source).types.getD 0 default).2 = classOf (timedEvent "login") := rfl
    rw [first, chosen, drawn] at made
    simp only [LoadLoop.nextOperation, loginWriter] at made ⊢
    rw [made]
    rfl

/-- The attempt of a writer of logins a second after its start. -/
def loginAttempt (source : RandomSource) (connection : Connection) : Attempt Connection :=
  (loginWriter source).attempt LoadOperation.perform { nanoseconds := 0 } connection 1

theorem loginAttempt_stores (source : RandomSource) (connection : Connection) :
    ∃ time : Int, Cell.inRange time = true ∧ (loginAttempt source connection).operation =
        .ok (.store (loginOf (.integer time) (.integer 0))) ∧
      (LoadOperation.store (loginOf (.integer time) (.integer 0))).perform connection =
        ((loginAttempt source connection).outcome, (loginAttempt source connection).after) := by
  obtain ⟨time, inRange, next⟩ := nextOperation_loginWriter source
  have made : (loginAttempt source connection).IsMade .writer (loginWriter source).types :=
    ⟨{ nanoseconds := 0 }, loginWriter source, rfl, rfl, rfl⟩
  have stores : (loginAttempt source connection).operation =
      .ok (.store (loginOf (.integer time) (.integer 0))) := next
  rcases made.performed with ⟨operation, chosen, performed⟩ | ⟨fault, refused, _⟩
  · obtain rfl := Except.ok.inj (stores.symm.trans chosen)
    exact ⟨time, inRange, stores, performed⟩
  · rw [stores] at refused
    cases refused

/-- A writer of logins that has started. -/
def loginTask (source : RandomSource) : LoopTask EventClass :=
  LoopTask.start 0 { shown := "1.0", seconds := 1 } { shown := "10.0", seconds := 10 }
    (loginWriter source)

theorem tried_loginTask (source : RandomSource) (connection : Connection)
    (meanwhile : Connection → Connection) :
    (begin (loginTask source) connection).attempt? LoadOperation.perform
        (fun _ => { nanoseconds := 0 }) { time := 1, meanwhile } =
      some (loginAttempt source (meanwhile connection)) := by
  have due : (loginTask source).cadence.operationDue 1 = true := by
    simp [loginTask, LoopTask.start, Cadence.start, Cadence.operationDue]
  exact if_pos due

/-- A run of a writer of logins that wakes once. -/
def loginRun (source : RandomSource) (connection : Connection) : LoopRun Connection :=
  (begin (loginTask source) connection).wakeAll LoadOperation.perform
    (fun _ => { nanoseconds := 0 }) [{ time := 1, meanwhile := id }]

theorem attempts_loginRun (source : RandomSource) (connection : Connection) :
    (loginRun source connection).attempts = [loginAttempt source connection] :=
  (wake_attempt rfl (tried_loginTask source connection id)).1

/-- A writer that stores counts one row, whatever becomes of the table. -/
theorem loginRun_of_stores (source : RandomSource) (connection : Connection)
    (after : Int → Connection) (stores : ∀ time, Cell.inRange time = true →
      (loginOf (.integer time) (.integer 0)).store connection = .ok (after time)) :
    let run := loginRun source connection
    run.operations = 1 ∧ run.rows = 1 ∧ ∃ time, Cell.inRange time = true ∧
      (run.attempts.map Attempt.rows).sum =
        (after time).rowCount "login" - connection.rowCount "login" := by
  intro run
  have conserved : run.IsConserved :=
    (isConserved_begin (loginTask source) connection rfl).wakeAll _ _ _
  have attempts : run.attempts = [loginAttempt source connection] :=
    attempts_loginRun source connection
  obtain ⟨time, inRange, chosen, performed⟩ := loginAttempt_stores source connection
  simp only [LoadOperation.perform, stores time inRange, Prod.mk.injEq] at performed
  obtain ⟨outcome, world⟩ := performed
  have successes : run.successes = [1] := by
    simp [LoopRun.successes, attempts, ← outcome, Except.toOption]
  refine ⟨by rw [conserved.operations, successes]; rfl, by rw [conserved.rows, successes]; rfl, time,
    inRange, ?_⟩
  rw [attempts, List.map_singleton, List.sum_singleton, Attempt.rows, chosen]
  simp only [← world]
  rfl

/-- A connection to a table of logins. -/
def loginConnection (rows : List SqlRow) : Connection :=
  { database := Database.empty.addTable
      { SqlTable.plain "login" [("time", "BIGINT"), ("created_at", "BIGINT")] with rows } [] }

/-- A table of logins takes an event as one more row. -/
theorem store_loginConnection (time : Int) (inRange : Cell.inRange time = true) :
    (loginOf (.integer time) (.integer 0)).store (loginConnection []) =
      .ok (loginConnection [{ id := 1, cells := [.integer time, .integer 0] }]) := by
  have bound : Connection.bind 1 (.integer time) = .ok (.integer time) := if_pos inRange
  exact store_loginOf _ ⟨rfl, rfl⟩ _ _ _ _ _ rfl bound rfl rfl

/-- An event is not stored where its table is missing. -/
theorem store_emptyConnection (time : Int) :
    (loginOf (.integer time) (.integer 0)).store emptyConnection =
      .error { table := "login", message := "can't store event in login: no such table: login" } := by
  have values : (loginOf (.integer time) (.integer 0)).storedValues = [.integer time, .integer 0] := by
    refine (loginOf (.integer time) (.integer 0)).storedValues_eq isSound_login ?_
    rw [loginOf, columns_login]
    rfl
  have executed := emptyConnection.execute_insertion isSound_login ⟨rfl, rfl⟩
    [.integer time, .integer 0] (by rw [columns_login]; rfl)
  have insertion : (classOf (timedEvent "login")).insertion =
      .rows (.insert (SqlReader.plainInsertion "login" ["time", "created_at"])) := by
    rw [EventClass.insertion, columns_login]
    rfl
  have refused : emptyConnection.database.prepare
      (.rows (.insert (SqlReader.plainInsertion "login" ["time", "created_at"]))) =
        .error (.noObject .table "login") := rfl
  rw [insertion, refused] at executed
  rw [Event.store, values, show (loginOf (.integer time) (.integer 0)).eventClass =
    classOf (timedEvent "login") from rfl, executed]
  rfl

/-- A writer stores a row, and fails once its table is gone. -/
theorem loginRun_conserved : ∃ compiled loop,
    compileRaw loginSchema none = .ok compiled ∧
      (EventModule.ofCompiled compiled).Loads bareSession "events.py" "events.py" ∧
      LoadLoop.make .writer (EventModule.ofCompiled compiled).constructors 0 = .ok loop ∧
      let task := LoopTask.start 0 { shown := "1.0", seconds := 1 }
        { shown := "10.0", seconds := 10 } loop
      let clock : Instant → Clock := fun _ => { nanoseconds := 0 }
      let run := (begin task (loginConnection [])).wakeAll LoadOperation.perform clock
        [{ time := 1, meanwhile := id }]
      let failed := (begin task (loginConnection [])).wake LoadOperation.perform clock
        { time := 1, meanwhile := fun _ => emptyConnection }
      run.operations = 1 ∧ run.rows = (run.attempts.map Attempt.rows).sum ∧
        (run.attempts.map Attempt.rows).sum = 1 ∧
        failed.errors = [(StorageError.toFault
          { table := "login", message := "can't store event in login: no such table: login" })] ∧
        failed.operations = 0 ∧ failed.rows = 0 ∧ failed.death = none ∧
        failed.task.cadence = task.cadence.wake 1 := by
  obtain ⟨made, loads⟩ := compiles_loginSchema
  refine ⟨_, _, made, loads, make_loginWriter 0, ?_⟩
  generalize sourced : RandomSource.ofSeed 0 = source
  have isLoop := make_loginWriter 0
  rw [sourced] at isLoop
  have conserved := operations_conserved loginSchema none _ made bareSession "events.py" "events.py"
    loads .writer 0 _ isLoop { shown := "1.0", seconds := 1 } { shown := "10.0", seconds := 10 } 0
    (fun _ => { nanoseconds := 0 }) (loginConnection [])
  obtain ⟨_, sum, _⟩ := conserved [{ time := 1, meanwhile := id }]
  obtain ⟨_, _, _, _, _, _, fails, _⟩ := conserved []
  obtain ⟨operations, _, stored, _, inserted⟩ := loginRun_of_stores source (loginConnection [])
    (fun time => loginConnection [{ id := 1, cells := [.integer time, .integer 0] }])
    store_loginConnection
  have takes : ∀ attempt ∈ (loginRun source (loginConnection [])).attempts, attempt.TakesRows := by
    intro attempt member
    rw [attempts_loginRun] at member
    obtain rfl := List.mem_singleton.mp member
    intro event stores
    obtain ⟨time, _, chosen, _⟩ := loginAttempt_stores source (loginConnection [])
    obtain rfl := LoadOperation.store.inj (Except.ok.inj (chosen.symm.trans stores))
    exact takesRows_loginTable []
  have missing : (loginAttempt source emptyConnection).error? = some (StorageError.toFault
      { table := "login", message := "can't store event in login: no such table: login" }) := by
    obtain ⟨time, _, chosen, _⟩ := loginAttempt_stores source emptyConnection
    have before : (loginAttempt source emptyConnection).before = emptyConnection := rfl
    rw [Attempt.error?, chosen, before]
    simp only [store_emptyConnection]
  obtain ⟨_, _, _, reported⟩ := fails { time := 1, meanwhile := fun _ => emptyConnection } _ rfl
    (tried_loginTask source (loginConnection []) fun _ => emptyConnection)
  obtain ⟨errors, alive, noOperation, noRow, cadence⟩ := reported _ missing
  exact ⟨operations, sum takes, inserted, errors, noOperation, noRow, alive, cadence⟩

/-- A table of logins in which a row gives way to one with the same creation time. -/
def ignoringConnection : Connection :=
  { database := Database.empty.addTable
      { name := "login"
        columns := [{ name := "time", typeName := "BIGINT" },
          { name := "created_at", typeName := "BIGINT", unique := true }]
        rows := [{ id := 1, cells := [.integer 0, .integer 0] }] }
      [{ name := "sqlite_autoindex_login_1", table := "login"
         terms := [{ value := .column ["created_at"] false, collation := .binary }]
         unique := true, implied := true, resolution := some .ignore }] }

theorem store_ignoringConnection (time : Int) (inRange : Cell.inRange time = true) :
    (loginOf (.integer time) (.integer 0)).store ignoringConnection = .ok ignoringConnection := by
  have bound : Connection.bind 1 (.integer time) = .ok (.integer time) := if_pos inRange
  exact store_loginOf _ ⟨rfl, rfl⟩ _ _ _ _ _ rfl bound rfl rfl

/-- A row that gives way is counted, though it is not inserted. -/
theorem ignoringConnection_counts_more : ∃ compiled loop,
    compileRaw loginSchema none = .ok compiled ∧
      (EventModule.ofCompiled compiled).Loads bareSession "events.py" "events.py" ∧
      LoadLoop.make .writer (EventModule.ofCompiled compiled).constructors 0 = .ok loop ∧
      let run := (begin (LoopTask.start 0 { shown := "1.0", seconds := 1 }
        { shown := "10.0", seconds := 10 } loop) ignoringConnection).wakeAll LoadOperation.perform
          (fun _ => { nanoseconds := 0 }) [{ time := 1, meanwhile := id }]
      run.operations = 1 ∧ run.rows = 1 ∧ (run.attempts.map Attempt.rows).sum = 0 := by
  obtain ⟨made, loads⟩ := compiles_loginSchema
  refine ⟨_, _, made, loads, make_loginWriter 0, ?_⟩
  obtain ⟨operations, rows, _, _, inserted⟩ := loginRun_of_stores (RandomSource.ofSeed 0)
    ignoringConnection (fun _ => ignoringConnection) store_ignoringConnection
  exact ⟨operations, rows, inserted.trans (Nat.sub_self _)⟩

end Migration

end EventForge
