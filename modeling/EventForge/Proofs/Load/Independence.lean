import EventForge.Load.Supervisor
import EventForge.Proofs.Load.Attempts
import EventForge.Proofs.Store.StoredEvents

/-!
# Loops beside each other

Several loops share a connection and tick in any order.  What each of them tries to do follows from
its own source, its own event types and its own clock, as if it were alone.  A loop that reads leaves
the database to the others as it is, so that a writer stores the same rows with a reader beside it.
-/

namespace EventForge

/-- Loops that share a connection, and what they tried to do so far, each under its place. -/
structure LoopGroup where
  loops : List LoadLoop
  connection : Connection
  attempts : List (Nat × LoadOperation) := []

/-- A tick of the loop at a place, with a reading of the clock. -/
structure LoopTick where
  place : Nat
  clock : Clock

namespace LoopGroup

/-- Performs operations on a connection and notes them. -/
def noting : Performer (Connection × List LoadOperation) := fun world operation =>
  let (result, connection) := operation.perform world.1
  (result, (connection, world.2 ++ [operation]))

/-- One of the loops ticks.  A place without a loop does nothing. -/
def tick (group : LoopGroup) (tick : LoopTick) : LoopGroup :=
  match group.loops[tick.place]? with
  | none => group
  | some loop =>
      let (_, loop, connection, operations) :=
        LoadLoop.tick noting tick.clock (group.connection, []) loop
      { loops := group.loops.set tick.place loop, connection
        attempts := group.attempts ++ operations.map fun operation => (tick.place, operation) }

/-- The loops tick in some order. -/
def run (group : LoopGroup) (ticks : List LoopTick) : LoopGroup := ticks.foldl tick group

/-- What the loop at a place tried to do. -/
def attemptsOf (place : Nat) (group : LoopGroup) : List LoadOperation :=
  group.attempts.filterMap fun attempt => if attempt.1 = place then some attempt.2 else none

/-- What the clock reads at the ticks of a loop. -/
def readings (place : Nat) (ticks : List LoopTick) : List Clock :=
  ticks.filterMap fun tick => if tick.place = place then some tick.clock else none

/-- What becomes of a connection when a loop tries its next operation on it. -/
def after (clock : Clock) (loop : LoadLoop) (connection : Connection) : Connection :=
  match (loop.nextOperation clock).1 with
  | .ok operation => (operation.perform connection).2
  | .error _ => connection

variable (group : LoopGroup)

theorem tick_of_none (tick : LoopTick) (vacant : group.loops[tick.place]? = none) :
    group.tick tick = group := by
  simp only [LoopGroup.tick, vacant]

/-- A tick changes one loop, notes what it tried, and changes the connection accordingly. -/
theorem tick_of_some (tick : LoopTick) (loop : LoadLoop)
    (found : group.loops[tick.place]? = some loop) :
    ∃ stats, group.tick tick =
      { loops := group.loops.set tick.place (.counting stats (loop.nextOperation tick.clock).2)
        connection := after tick.clock loop group.connection
        attempts := group.attempts ++
          (loop.nextOperation tick.clock).1.toOption.toList.map fun operation =>
            (tick.place, operation) } := by
  obtain ⟨⟨stats, kept⟩, world⟩ := loop.tick_eq noting tick.clock (group.connection, [])
  refine ⟨stats, ?_⟩
  simp only [LoopGroup.tick, found, kept, world, after]
  cases (loop.nextOperation tick.clock).1 <;> rfl

/-- What a loop tries follows from its own ticks. -/
theorem attemptsOf_run (ticks : List LoopTick) (place : Nat) (loop : LoadLoop)
    (found : group.loops[place]? = some loop) :
    (group.run ticks).attemptsOf place =
      group.attemptsOf place ++ loop.attempts (readings place ticks) := by
  induction ticks generalizing group loop with
  | nil => simp [run, readings, LoadLoop.attempts]
  | cons tick later ih =>
      cases there : group.loops[tick.place]? with
      | none =>
          have apart : tick.place ≠ place := by
            rintro rfl
            rw [found] at there
            cases there
          have same := ih group loop found
          simp only [run, List.foldl_cons, tick_of_none group tick there] at same ⊢
          rw [same]
          simp [readings, apart]
      | some own =>
          obtain ⟨stats, ticked⟩ := tick_of_some group tick own there
          by_cases same : tick.place = place
          · subst same
            obtain rfl : own = loop := by
              rw [found] at there
              exact (Option.some.inj there).symm
            obtain ⟨inside, _⟩ := List.getElem?_eq_some_iff.mp found
            have further := ih (group.tick tick)
              (.counting stats (own.nextOperation tick.clock).2) (by
                rw [ticked]
                exact List.getElem?_set_self inside)
            rw [LoadLoop.attempts_counting] at further
            simp only [run, List.foldl_cons] at further ⊢
            rw [further, ticked]
            simp [readings, attemptsOf, LoadLoop.attempts]
          · have further := ih (group.tick tick) loop (by
              rw [ticked, List.getElem?_set_ne same, found])
            simp only [run, List.foldl_cons] at further ⊢
            rw [further, ticked]
            simp [readings, attemptsOf, same]

/-!
## Readers
-/

/-- Asking for the rows of a range changes nothing that the database holds. -/
theorem sameContent_selection {eventClass : EventClass} (sound : eventClass.IsSound)
    (connection : Connection) (low high : Document) (rows : List (List Document))
    (answered : Connection) (asked : connection.execute eventClass.selectStatement
      (Connection.bindings [low, high]) = .ok (rows, answered)) :
    answered.database.SameContent connection.database ∧ answered.closed = connection.closed := by
  have ready := Connection.isReady_of_execute asked
  have spelled := SqlReader.spells_selectTokens _ _ _ sound.table.plain sound.inhabited
    (fun name member => (sound.columns name member).plain)
    (sound.columns _ sound.timeColumn).plain
  rw [sound.selection, SqlReader.selectText_eq _ _ _ sound.inhabited,
    Connection.execute_spell connection ready _ spelled _ _ _
      (SqlReader.ofText_select _ _ _ sound.table sound.inhabited sound.columns
        (sound.columns _ sound.timeColumn)) (.inl (by simp [Connection.bindings]))] at asked
  obtain ⟨_, _, asked⟩ := (Outcome.bind_eq_ok_iff _ _ _).mp asked
  obtain ⟨bound, _, asked⟩ := (Outcome.bind_eq_ok_iff _ _ _).mp asked
  obtain ⟨result, performed, asked⟩ := (Outcome.bind_eq_ok_iff _ _ _).mp asked
  replace performed := (Outcome.mapError_eq_ok_iff _ _ _).mp performed
  have whole : result.2 = connection.database := by
    simp only [Database.perform, Database.performOnRows] at performed
    obtain ⟨table, _, performed⟩ := (Outcome.bind_eq_ok_iff _ _ _).mp performed
    split at performed
    · cases performed
    · exact congrArg Prod.snd (Except.ok.inj performed).symm
  have same := congrArg Prod.snd (Except.ok.inj asked)
  subst same
  have content := connection.database.sameContent_recorded
    (SqlReader.selectTokens eventClass.table eventClass.columns eventClass.timeColumn)
    (.rows (.query (SqlReader.rangeQuery eventClass.table eventClass.columns
      eventClass.timeColumn))) connection.database
  rw [whole]
  exact ⟨content, rfl⟩

/-- A loop that reads leaves the connection as it is. -/
theorem after_of_reader (clock : Clock) (loop : LoadLoop) (reads : loop.kind = .reader)
    (connection : Connection) : after clock loop connection = connection := by
  unfold after
  cases next : (loop.nextOperation clock).1 with
  | error fault => rfl
  | ok operation =>
      obtain ⟨event, low, high, rfl⟩ := LoadLoop.isQuery_of_attempt clock loop reads operation next
      simp only [LoadOperation.perform]
      split <;> rfl

/-- The loop at a place, if it writes. -/
def writer? (group : LoopGroup) (place : Nat) : Option LoadLoop :=
  group.loops[place]?.filter fun loop => loop.kind = .writer

/-- Whether two groups have the same writers on the same connection. -/
structure SameWriting (first second : LoopGroup) : Prop where
  connection : first.connection = second.connection
  writers : ∀ place, first.writer? place = second.writer? place

/-- Where no loop writes, a tick leaves the connection and all writers as they are. -/
theorem SameWriting.of_writer?_eq_none (tick : LoopTick) (silent : group.writer? tick.place = none) :
    SameWriting (group.tick tick) group := by
  cases found : group.loops[tick.place]? with
  | none =>
      rw [tick_of_none group tick found]
      exact ⟨rfl, fun _ => rfl⟩
  | some loop =>
      have reads : loop.kind = .reader := by
        simp only [writer?, found, Option.filter_some] at silent
        cases kind : loop.kind with
        | writer => simp [kind] at silent
        | reader => rfl
      obtain ⟨stats, ticked⟩ := tick_of_some group tick loop found
      rw [ticked]
      refine ⟨after_of_reader tick.clock loop reads group.connection, fun place => ?_⟩
      by_cases same : tick.place = place
      · subst same
        obtain ⟨inside, _⟩ := List.getElem?_eq_some_iff.mp found
        have kept : (LoadLoop.counting stats (loop.nextOperation tick.clock).2).kind = .reader :=
          (LoadLoop.nextOperation_kept tick.clock loop).1.trans reads
        rw [silent, writer?, List.getElem?_set_self inside]
        simp [kept]
      · rw [writer?, writer?, List.getElem?_set_ne same]

/-- A tick of a writer does the same in every group that has the same writers. -/
theorem SameWriting.tick {first second : LoopGroup} (same : SameWriting first second)
    (tick : LoopTick) : SameWriting (first.tick tick) (second.tick tick) := by
  have writers := same.writers tick.place
  cases found : first.writer? tick.place with
  | none =>
      have left := of_writer?_eq_none first tick found
      have right := of_writer?_eq_none second tick (writers.symm.trans found)
      exact ⟨left.connection.trans (same.connection.trans right.connection.symm), fun place =>
        (left.writers place).trans ((same.writers place).trans (right.writers place).symm)⟩
  | some loop =>
      have here (group : LoopGroup) (is : group.writer? tick.place = some loop) :
          group.loops[tick.place]? = some loop := by
        obtain ⟨is, _⟩ := Option.filter_eq_some_iff.mp is
        exact is
      have left := here first found
      have right := here second (writers.symm.trans found)
      simp only [LoopGroup.tick, left, right, same.connection]
      refine ⟨rfl, fun place => ?_⟩
      by_cases at' : tick.place = place
      · subst at'
        obtain ⟨inside, _⟩ := List.getElem?_eq_some_iff.mp left
        obtain ⟨within, _⟩ := List.getElem?_eq_some_iff.mp right
        simp only [writer?, List.getElem?_set_self inside, List.getElem?_set_self within]
      · have others := same.writers place
        simp only [writer?] at others ⊢
        rw [List.getElem?_set_ne at', List.getElem?_set_ne at', others]

theorem SameWriting.run {first second : LoopGroup} (same : SameWriting first second)
    (ticks : List LoopTick) : SameWriting (first.run ticks) (second.run ticks) := by
  induction ticks generalizing first second with
  | nil => exact same
  | cons tick later ih => exact ih (same.tick tick)

/-!
## Loops on their own
-/

/-- Loops that have not ticked yet. -/
def ofLoops (loops : List LoadLoop) (connection : Connection) : LoopGroup := { loops, connection }

/-- What loops tried is what each of them tries alone. -/
theorem attemptsOf_ofLoops (loops : List LoadLoop) (connection : Connection)
    (ticks : List LoopTick) (place : Nat) (loop : LoadLoop) (found : loops[place]? = some loop) :
    ((ofLoops loops connection).run ticks).attemptsOf place =
      loop.attempts (readings place ticks) :=
  attemptsOf_run (ofLoops loops connection) ticks place loop found

/-- Ticks of a loop that is alone. -/
def ticksAlone (clocks : List Clock) : List LoopTick := clocks.map fun clock => { place := 0, clock }

/-- A loop that is alone ticks at its own ticks only. -/
theorem run_alone (group : LoopGroup) (alone : group.loops.length = 1) (ticks : List LoopTick) :
    group.run ticks = group.run (ticksAlone (readings 0 ticks)) := by
  induction ticks generalizing group with
  | nil => rfl
  | cons tick later ih =>
      obtain ⟨place, clock⟩ := tick
      cases place with
      | zero =>
          have still : (group.tick { place := 0, clock }).loops.length = 1 := by
            simp only [LoopGroup.tick]
            split
            · exact alone
            · rw [List.length_set, alone]
          exact ih _ still
      | succ place =>
          have vacant : group.loops[place + 1]? = none :=
            List.getElem?_eq_none (by omega)
          have same := ih group alone
          simp only [run, List.foldl_cons, tick_of_none group { place := place + 1, clock } vacant]
            at same ⊢
          simpa [readings] using same

theorem readings_ticksAlone (clocks : List Clock) : readings 0 (ticksAlone clocks) = clocks := by
  simp [readings, ticksAlone, List.filterMap_map]

end LoopGroup

namespace RunPlan

variable {EventType Own : Type} {plan : RunPlan EventType Own} {now : Instant}
  {types : List (Text × EventType)} {working : List (LoopTask EventType)}

/-- A plan that writes and does not read works with one writer. -/
theorem loops_of_writer (mode : plan.mode = .writer) (made : plan.tasks now types = .ok working) :
    working.map LoopTask.loop =
      [{ kind := .writer, source := RandomSource.ofSeed plan.settings.seed, types }] := by
  simp only [RunPlan.tasks, mode, RunMode.writes, RunMode.reads] at made
  cases writer : TypedLoop.ofTypes .writer types plan.settings.seed with
  | error fault =>
      rw [writer] at made
      cases made
  | ok loop =>
      rw [writer] at made
      obtain rfl := Except.ok.inj made
      rw [← TypedLoop.eq_of_ofTypes writer]
      rfl

/-- A plan that writes and reads works with the same writer, and with a reader. -/
theorem loops_of_both (mode : plan.mode = .both) (made : plan.tasks now types = .ok working) :
    ∃ reader : TypedLoop EventType, reader.kind = .reader ∧ working.map LoopTask.loop =
      [{ kind := .writer, source := RandomSource.ofSeed plan.settings.seed, types }, reader] := by
  simp only [RunPlan.tasks, mode, RunMode.writes, RunMode.reads] at made
  cases writer : TypedLoop.ofTypes .writer types plan.settings.seed with
  | error fault =>
      rw [writer] at made
      cases made
  | ok loop =>
      rw [writer] at made
      cases reader : TypedLoop.ofTypes .reader types
          (RunMode.readerSeed .both plan.settings.seed) with
      | error fault =>
          rw [reader] at made
          cases made
      | ok second =>
          rw [reader] at made
          obtain rfl := Except.ok.inj made
          refine ⟨second, ?_, ?_⟩
          · rw [TypedLoop.eq_of_ofTypes reader]
          · rw [← TypedLoop.eq_of_ofTypes writer]
            rfl

/-- A plan has loops over any event types. -/
theorem tasks_of_types (plan : RunPlan EventType Own) (now : Instant)
    (types : List (Text × EventType)) (inhabited : types ≠ []) :
    ∃ tasks, plan.tasks now types = .ok tasks := by
  have some (kind : LoopKind) (seed : Int) :
      ∃ loop, TypedLoop.ofTypes kind types seed = .ok loop := by
    unfold TypedLoop.ofTypes
    rw [if_neg (by simpa using inhabited)]
    exact ⟨_, rfl⟩
  obtain ⟨writer, writing⟩ := some .writer plan.settings.seed
  obtain ⟨reader, reading⟩ := some .reader (plan.mode.readerSeed plan.settings.seed)
  unfold RunPlan.tasks
  split <;> split <;> simp [writing, reading, Except.map]

end RunPlan

namespace LoopGroup

/-- A reader behind a writer plays no part for what is written. -/
theorem sameWriting_of_reader (writer reader : LoadLoop) (reads : reader.kind = .reader)
    (connection : Connection) :
    SameWriting (ofLoops [writer, reader] connection) (ofLoops [writer] connection) := by
  refine ⟨rfl, fun place => ?_⟩
  match place with
  | 0 => rfl
  | 1 => simp [writer?, ofLoops, reads]
  | place + 2 => rfl

/-- A writer beside a reader stores the same rows as one alone. -/
theorem connection_of_tasks {Own : Type} {plan : RunPlan EventClass Own} {now : Instant}
    {types : List (Text × EventClass)} {both alone : List (LoopTask EventClass)}
    (beside : { plan with mode := .both }.tasks now types = .ok both)
    (apart : { plan with mode := .writer }.tasks now types = .ok alone)
    (connection : Connection) (ticks : List LoopTick) :
    ((ofLoops (both.map LoopTask.loop) connection).run ticks).connection =
      ((ofLoops (alone.map LoopTask.loop) connection).run
        (ticksAlone (readings 0 ticks))).connection := by
  obtain ⟨reader, reads, loops⟩ := RunPlan.loops_of_both rfl beside
  rw [loops, RunPlan.loops_of_writer rfl apart]
  rw [((sameWriting_of_reader _ reader reads connection).run ticks).connection]
  exact congrArg LoopGroup.connection (run_alone _ rfl ticks)

open Compilation in
/-- However loops on one connection are interleaved, what each of them tries follows from its own
seed, event types and readings of the clock, as if it were alone.  Those that read change nothing, so
that a writer stores the same rows beside a reader as without it. -/
theorem loops_are_independent (loops : List LoadLoop) (connection : Connection)
    (ticks : List LoopTick) :
    let group := (ofLoops loops connection).run ticks
    (∀ place kind types seed loop, loops[place]? = some loop →
      LoadLoop.make kind types seed = .ok loop → (types.map Prod.fst).Nodup →
      ∀ others : List (Text × EventClass), types.Perm others →
        ∃ alone, LoadLoop.make kind others seed = .ok alone ∧
          group.attemptsOf place = alone.attempts (readings place ticks) ∧
          (∀ elsewhere, ((ofLoops [alone] elsewhere).run
            (ticksAlone (readings place ticks))).attemptsOf 0 = group.attemptsOf place) ∧
          (kind = .writer → ∀ operation ∈ group.attemptsOf place,
            ∃ event, operation = .store event)) ∧
      (∀ place loop clock, group.loops[place]? = some loop → loop.kind = .reader →
        (group.tick { place, clock }).connection = group.connection) ∧
      (∀ schema sourcePath compiled session reference path,
        compileRaw schema sourcePath = .ok compiled →
        (EventModule.ofCompiled compiled).Loads session reference path →
        ∀ eventClass ∈ (EventModule.ofCompiled compiled).classes, ∀ low high rows answered,
          group.connection.execute eventClass.selectStatement (Connection.bindings [low, high]) =
            .ok (rows, answered) →
          answered.database.SameContent group.connection.database) ∧
      ∀ (Own : Type) (plan : RunPlan EventClass Own) now types both alone,
        { plan with mode := .both }.tasks now types = .ok both →
        { plan with mode := .writer }.tasks now types = .ok alone →
        ((ofLoops (both.map LoopTask.loop) connection).run ticks).connection =
          ((ofLoops (alone.map LoopTask.loop) connection).run
            (ticksAlone (readings 0 ticks))).connection := by
  intro group
  refine ⟨?_, ?_, ?_, ?_⟩
  · intro place kind types seed loop found made distinct others perm
    have tried := attemptsOf_ofLoops loops connection ticks place loop found
    refine ⟨loop, by rw [← LoadLoop.make_of_perm kind perm distinct seed, made], tried, ?_, ?_⟩
    · intro elsewhere
      rw [attemptsOf_ofLoops [loop] elsewhere _ 0 loop rfl, readings_ticksAlone]
      exact tried.symm
    · intro writes operation member
      have own := TypedLoop.eq_of_ofTypes made
      refine LoadLoop.isStore_of_mem_attempts (readings place ticks) loop ?_ operation
        (tried ▸ member)
      rw [own, writes]
  · intro place loop clock found reads
    obtain ⟨stats, ticked⟩ := tick_of_some group { place, clock } loop found
    rw [ticked]
    exact after_of_reader clock loop reads group.connection
  · intro schema sourcePath compiled session reference path made loads eventClass listed low high
      rows answered asked
    obtain ⟨accepted, rfl⟩ := of_compileRaw schema sourcePath compiled made
    have plain := Migration.hasPlainNames_of_loads schema sourcePath accepted session reference path loads
    obtain ⟨event, member, rfl⟩ := (mem_classes_moduleOf schema sourcePath eventClass).mp listed
    have sound := isSound_classOf event (accepted.events event member) (plain.events event member)
      (plain.fields event member)
    exact (sameContent_selection sound group.connection low high rows answered asked).1
  · intro Own plan now types both alone beside apart
    exact connection_of_tasks beside apart connection ticks

/-- The events of logins. -/
def loginTypes : List (Text × EventClass) :=
  [("login", Compilation.classOf (Compilation.timedEvent "login"))]

/-- A plan for loops over logins. -/
def loginLoops (mode : RunMode) : RunPlan EventClass Unit where
  mode
  settings := {}
  workload := (Compilation.moduleOf Compilation.loginSchema none).workload
  clock := fun _ => { nanoseconds := 0 }

/-- A writer ticks between two ticks of a reader. -/
def mixedTicks : List LoopTick :=
  [{ place := 1, clock := { nanoseconds := 5 } }, { place := 0, clock := { nanoseconds := 6 } },
    { place := 1, clock := { nanoseconds := 7 } }]

/-- A writer and a reader of logins are not in each other's way. -/
theorem loginLoops_are_independent : ∃ writer reader,
    LoadLoop.make .writer loginTypes 0 = .ok writer ∧
      LoadLoop.make .reader loginTypes 1 = .ok reader ∧
      let group := (ofLoops [writer, reader] emptyConnection).run mixedTicks
      group.attemptsOf 0 = writer.attempts [{ nanoseconds := 6 }] ∧
        group.attemptsOf 1 = reader.attempts [{ nanoseconds := 5 }, { nanoseconds := 7 }] ∧
        (∀ operation ∈ group.attemptsOf 0, ∃ event, operation = .store event) ∧
        ((ofLoops [writer, reader] emptyConnection).tick
          { place := 1, clock := { nanoseconds := 5 } }).connection = emptyConnection ∧
        ∃ both alone, (loginLoops .both).tasks 0 loginTypes = .ok both ∧
          (loginLoops .writer).tasks 0 loginTypes = .ok alone ∧
          ((ofLoops (both.map LoopTask.loop) emptyConnection).run mixedTicks).connection =
            ((ofLoops (alone.map LoopTask.loop) emptyConnection).run
              [{ place := 0, clock := { nanoseconds := 6 } }]).connection := by
  have made (kind : LoopKind) (seed : Int) : LoadLoop.make kind loginTypes seed =
      .ok { kind, source := RandomSource.ofSeed seed, types := loginTypes } := by
    rw [LoadLoop.make, LoadLoop.sorted, loginTypes, List.mergeSort_singleton]
    rfl
  refine ⟨_, _, made .writer 0, made .reader 1, ?_⟩
  have writes := made .writer 0
  have reads := made .reader 1
  generalize RandomSource.ofSeed 0 = first at writes ⊢
  generalize RandomSource.ofSeed 1 = second at reads ⊢
  obtain ⟨tried, _, _, beside⟩ := loops_are_independent
    [{ kind := .writer, source := first, types := loginTypes },
      { kind := .reader, source := second, types := loginTypes }] emptyConnection mixedTicks
  obtain ⟨_, still, _, _⟩ := loops_are_independent
    [{ kind := .writer, source := first, types := loginTypes },
      { kind := .reader, source := second, types := loginTypes }] emptyConnection []
  have distinct : (loginTypes.map Prod.fst).Nodup := List.nodup_singleton _
  obtain ⟨writer, sameWriter, written, _, stores⟩ :=
    tried 0 .writer loginTypes 0 _ rfl writes distinct loginTypes (.refl _)
  obtain rfl := Except.ok.inj (sameWriter.symm.trans writes)
  obtain ⟨reader, sameReader, read, _, _⟩ :=
    tried 1 .reader loginTypes 1 _ rfl reads distinct loginTypes (.refl _)
  obtain rfl := Except.ok.inj (sameReader.symm.trans reads)
  obtain ⟨both, isBoth⟩ := (loginLoops .both).tasks_of_types 0 loginTypes (List.cons_ne_nil _ _)
  obtain ⟨alone, isAlone⟩ := (loginLoops .writer).tasks_of_types 0 loginTypes (List.cons_ne_nil _ _)
  exact ⟨written, read, stores rfl, still 1 _ _ rfl rfl, both, alone, isBoth, isAlone,
    beside Unit (loginLoops .writer) 0 loginTypes both alone isBoth isAlone⟩

end LoopGroup

end EventForge
