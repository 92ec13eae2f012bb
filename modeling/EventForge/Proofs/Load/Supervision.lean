import EventForge.Proofs.Load.Endings
import EventForge.Proofs.Load.Independence
import EventForge.Proofs.Store.EmptyDatabase
import EventForge.Proofs.Store.Retry

/-!
# The report of a supervised run

A run opens its database, migrates it and starts its tasks, and then goes on to the first instant that
ends it.  What is reported is what ended it; nothing is at work any more then, and no entry of the log
is of later.
-/

namespace EventForge

open LiveRun Outcome

/-- Whether a report is of a run. -/
structure RunReport.IsOf {EventType Own : Type} (run : LiveRun EventType Own)
    (report : RunReport EventType Own) : Prop where
  workspace : report.workspace = run.workspace
  own : report.own = run.own
  monitor : report.monitor = some run.monitor.work

/-- What is told of a run that begins at an instant with a first read of its source.  A shutdown that
is requested by then, or a source that is refused, ends it there; otherwise it goes on to the first
instant that ends it. -/
structure RunReport.TellsOf {EventType Own : Type} (limit now : Instant)
    (actions : List ScheduledAction) (read : Except FileFault Bytes)
    (begun : LiveRun EventType Own) (report : RunReport EventType Own) : Prop where
  atOnce : RequestedBy limit now actions →
    report.time = now ∧ report.result = .ok .ok ∧ report.IsOf begun
  refused : ¬RequestedBy limit now actions → (Watch.refusal? read).isSome = true →
    report.time = now ∧ report.result = .ok .failed ∧ report.IsOf begun
  later : ¬RequestedBy limit now actions → Watch.refusal? read = none →
    ∃ instants last observed final,
      GoesOn limit begun instants last ∧ last.IsNext limit report.time ∧
      Passes report.time last observed final ∧ last.EndsAt limit report.time observed ∧
      last.IsVerdict limit report.time observed report.result ∧
      (now :: (instants.map Prod.fst ++ [report.time])).Pairwise (· < ·) ∧ report.IsOf final
  atRest : ∀ status, report.result = .ok status → ∃ left, report.left = some left ∧ left.IsAtRest
  logged : ∀ entry ∈ report.log, entry.time ≤ report.time

namespace RunPlan

variable {EventType Own : Type}

/-- Loops that start at an instant have a pace and wake only behind it. -/
structure StartAt (now : Instant) (task : LoopTask EventType) : Prop where
  positive : IsPositive task.cadence
  operation : now < task.cadence.nextOperation
  report : now < task.cadence.nextReport

/-- The loops of a plan start at its intervals. -/
theorem cadence_of_mem_tasks {plan : RunPlan EventType Own} {now : Instant}
    {types : List (Text × EventType)} {tasks : List (LoopTask EventType)}
    (made : plan.tasks now types = .ok tasks) : ∀ task ∈ tasks, ∃ interval,
      (interval = plan.settings.writeInterval ∨ interval = plan.settings.readInterval) ∧
        task.cadence = Cadence.start now (Span.ofFloat interval).seconds
          (Span.ofFloat plan.settings.statsInterval).seconds := by
  let make (kind : LoopKind) (seed : Int) (interval : Float) : Except Fault (LoopTask EventType) :=
    TypedLoop.ofTypes kind types seed >>= fun loop =>
      .ok (LoopTask.start now (Span.ofFloat interval) (Span.ofFloat plan.settings.statsInterval) loop)
  have makes : ∀ kind seed interval loops, (make kind seed interval).map ([·]) = .ok loops →
      ∀ task ∈ loops, task.cadence = Cadence.start now (Span.ofFloat interval).seconds
        (Span.ofFloat plan.settings.statsInterval).seconds := by
    intro kind seed interval loops made task member
    cases typed : TypedLoop.ofTypes kind types seed with
    | error fault => simp [make, typed, Except.map] at made
    | ok loop =>
        simp only [make, typed, ok_bind, Except.map, Except.ok.injEq] at made
        rw [← made, List.mem_singleton] at member
        rw [member]
        rfl
  have shape : plan.tasks now types =
      (if plan.mode.writes then
          (make .writer plan.settings.seed plan.settings.writeInterval).map ([·])
        else .ok []) >>= fun writers =>
      (if plan.mode.reads then
          (make .reader (plan.mode.readerSeed plan.settings.seed) plan.settings.readInterval).map ([·])
        else .ok []) >>= fun readers => .ok (writers ++ readers) := by
    unfold RunPlan.tasks
    split <;> split <;> rfl
  rw [shape] at made
  obtain ⟨writers, writing, made⟩ := (bind_eq_ok_iff _ _ _).mp made
  obtain ⟨readers, reading, made⟩ := (bind_eq_ok_iff _ _ _).mp made
  intro task member
  rw [← Except.ok.inj made, List.mem_append] at member
  rcases member with member | member
  · split at writing
    · exact ⟨_, .inl rfl, makes _ _ _ writers writing task member⟩
    · rw [← Except.ok.inj writing] at member
      exact absurd member List.not_mem_nil
  · split at reading
    · exact ⟨_, .inr rfl, makes _ _ _ readers reading task member⟩
    · rw [← Except.ok.inj reading] at member
      exact absurd member List.not_mem_nil

theorem startAt_tasks {plan : RunPlan EventType Own} {now : Instant}
    {types : List (Text × EventType)} {tasks : List (LoopTask EventType)}
    (writes : 0.0 < plan.settings.writeInterval) (reads : 0.0 < plan.settings.readInterval)
    (reports : 0.0 < plan.settings.statsInterval) (made : plan.tasks now types = .ok tasks) :
    ∀ task ∈ tasks, StartAt now task := by
  intro task member
  obtain ⟨interval, isOne, cadence⟩ := cadence_of_mem_tasks made task member
  have operations : 0 < (Span.ofFloat interval).seconds := by
    rcases isOne with rfl | rfl
    · exact Span.seconds_ofFloat_pos _ writes
    · exact Span.seconds_ofFloat_pos _ reads
  have counts := Span.seconds_ofFloat_pos _ reports
  constructor <;> rw [cadence]
  · exact ⟨operations, counts⟩
  · simpa [Cadence.start] using operations
  · simpa [Cadence.start] using counts

/-! A run whose tasks start has a pace, every timer of it lies behind the start unless the run is to end
at once, and the instants that it may follow suffice. -/

section Begun

variable {plan : RunPlan EventType Own} {now limit : Instant} {actions : List ScheduledAction}
  {tasks : List (LoopTask EventType)} {place : DatabasePlace} {source : Text} {world : Workspace × Own}
  {begun : LiveRun EventType Own} {read : Except FileFault Bytes}
  (checks : 0 < (Span.ofFloat plan.settings.checkInterval).seconds)
  (begins : Begins now (plan.idle now actions place source tasks world) read begun)

theorem isIdle_idle (plan : RunPlan EventType Own) (now : Instant) (actions : List ScheduledAction)
    (place : DatabasePlace) (source : Text) (tasks : List (LoopTask EventType))
    (world : Workspace × Own) : (plan.idle now actions place source tasks world).IsIdle where
  shutdown := rfl
  errors := rfl
  changes := rfl
  log := rfl
  baseline := rfl
  loops := by
    intro task member
    obtain ⟨work, _, rfl⟩ := List.mem_map.mp member
    rfl

include checks begins

theorem lt_nextPoll_begun : now < begun.nextPoll := by
  have nextPoll : begun.nextPoll = now + (Span.ofFloat plan.settings.checkInterval).seconds :=
    begins.nextPoll
  rw [nextPoll]
  linarith

omit checks in
theorem cadences_begun : begun.cadences = tasks.map LoopTask.cadence := by
  rw [cadences, begins.loops]
  simp [idle, Function.comp_def]

variable (started : ∀ task ∈ tasks, StartAt now task)

include started

theorem isPaced_begun : begun.IsPaced := by
  refine ⟨?_, ?_⟩
  · rw [begins.checkInterval]
    exact checks
  · intro cadence member
    rw [cadences_begun begins] at member
    obtain ⟨task, listed, rfl⟩ := List.mem_map.mp member
    exact (started task listed).positive

theorem lt_timers_begun (ordered : InOrder actions) (late : ¬RequestedBy limit now actions) :
    ∀ time ∈ begun.timers limit, now < time := by
  intro time timer
  rcases (mem_timers_iff limit time begun).mp timer with
    rfl | rfl | ⟨cadence, listed, rfl⟩ | ⟨scheduled, listed, rfl⟩
  · exact not_le.mp fun passed => late (.inl passed)
  · exact lt_nextPoll_begun checks begins
  · rw [cadences_begun begins] at listed
    obtain ⟨task, member, rfl⟩ := List.mem_map.mp listed
    exact lt_earlier (started task member).operation (started task member).report
  · rw [begins.actions] at listed
    exact ((mem_dropWhile_iff now actions ordered scheduled).mp listed).2

theorem budget_begun (start : 0 ≤ now) : begun.budget limit < begun.instantBound limit := by
  have paced : ∀ task ∈ begun.loops, IsPositive task.work.cadence ∧
      0 ≤ task.work.cadence.nextOperation ∧ 0 ≤ task.work.cadence.nextReport := by
    intro task member
    rw [begins.loops] at member
    obtain ⟨work, listed, rfl⟩ := List.mem_map.mp member
    have startsAt := started work listed
    exact ⟨startsAt.positive, le_trans start (le_of_lt startsAt.operation),
      le_trans start (le_of_lt startsAt.report)⟩
  have loops := cadencesBudget_le limit begun.loops paced 0
  have polls : remaining limit begun.nextPoll begun.checkInterval.seconds ≤
      (limit / begun.checkInterval.seconds).floor.toNat + 1 :=
    remaining_start limit (isPaced_begun checks begins started).polls
      (le_trans start (le_of_lt (lt_nextPoll_begun checks begins)))
  unfold LiveRun.budget LiveRun.cadences instantBound
  simp only
  omega

end Begun

/-- The report of a run that ended. -/
def reportOf (ended : LiveRun EventType Own × Instant × RunEnd) : RunReport EventType Own :=
  let run :=
    match ended.2.2 with
    | .ok cause => ended.1.stop ended.2.1 cause
    | .error _ => ended.1
  { result := ended.2.2.map StopCause.status
    time := ended.2.1
    log := run.log
    workspace := run.workspace
    own := run.own
    left := some run }

theorem work_eq (plan : RunPlan EventType Own) (now limit : Instant) (actions : List ScheduledAction)
    (place : DatabasePlace) (source : Text) (tasks : List (LoopTask EventType))
    (world : Workspace × Own) :
    plan.work now limit actions place source tasks world =
      let begun := ((plan.idle now actions place source tasks world).actAll now).start now
      reportOf
        (match (begun.limited limit now).end? with
        | some ending => (begun, now, ending)
        | none => begun.follow limit (begun.instantBound limit)) := rfl

section Report

variable {run : LiveRun EventType Own} {time : Instant} {ending : RunEnd}

theorem isOf_reportOf : (reportOf (run, time, ending)).IsOf run := by
  cases ending <;> exact ⟨rfl, rfl, rfl⟩

theorem isAtRest_reportOf (ordered : InOrder run.actions)
    (goesOn : ∀ cause, ending = .ok cause → run.final? = none) (status : ExitStatus)
    (ended : (reportOf (run, time, ending)).result = .ok status) :
    ∃ left, (reportOf (run, time, ending)).left = some left ∧ left.IsAtRest := by
  cases ending with
  | error fault => cases ended
  | ok cause => exact ⟨_, rfl, isAtRest_stop time cause run ordered (goesOn cause rfl)⟩

theorem madeBy_reportOf (made : MadeBy time run.log) :
    MadeBy time (reportOf (run, time, ending)).log := by
  cases ending with
  | error fault => exact made
  | ok cause => exact madeBy_stop cause made

end Report

theorem work_tells {plan : RunPlan EventType Own} {now : Instant}
    {actions : List ScheduledAction} {tasks : List (LoopTask EventType)}
    (checks : 0 < (Span.ofFloat plan.settings.checkInterval).seconds)
    (started : ∀ task ∈ tasks, StartAt now task) (start : 0 ≤ now) (ordered : InOrder actions)
    (limit : Instant) (place : DatabasePlace) (source : Text) (world : Workspace × Own) :
    ∃ read begun, Begins now (plan.idle now actions place source tasks world) read begun ∧
      (plan.work now limit actions place source tasks world).TellsOf limit now actions read begun := by
  have unstarted := isIdle_idle plan now actions place source tasks world
  obtain ⟨read, begins, starts⟩ := exists_begins limit now unstarted ordered
  refine ⟨read, _, begins, ?_⟩
  rw [work_eq]
  simp only
  generalize ((plan.idle now actions place source tasks world).actAll now).start now = begun
    at begins starts ⊢
  have requested : (begun.limited limit now).shutdown = true ↔ RequestedBy limit now actions :=
    starts.shutdown
  have final := final?_begun unstarted begins
  have sameFinal : (begun.limited limit now).final? = none := final
  have orderedAfter : InOrder begun.actions := by
    rw [begins.actions]
    exact ordered.sublist (List.dropWhile_sublist _)
  by_cases early : RequestedBy limit now actions
  · have ending : (begun.limited limit now).end? = some (.ok .shutdown) := by
      simp [end?, sameFinal, cause?, requested.mpr early]
    rw [ending]
    exact {
      atOnce := fun _ => ⟨rfl, rfl, isOf_reportOf⟩
      refused := fun late => absurd early late
      later := fun late => absurd early late
      atRest := isAtRest_reportOf orderedAfter fun _ _ => final
      logged := madeBy_reportOf starts.log }
  · have going : ¬(begun.limited limit now).shutdown = true := fun stopped =>
      early (requested.mp stopped)
    have sameChanges : (begun.limited limit now).changes = [] := starts.changes
    have sameErrors : (begun.limited limit now).errors = [] := starts.errors
    have deaths := deaths_begun unstarted begins
    have sameDeaths : (begun.limited limit now).deaths =
        ((Watch.refusal? read).map fun fault => (TaskName.monitor, fault)).toList := deaths
    cases refused : Watch.refusal? read with
    | some fault =>
        have ending : (begun.limited limit now).end? =
            some (.ok (.death [(.monitor, fault)])) := by
          simp [end?, sameFinal, cause?, going, sameChanges, sameErrors, sameDeaths, refused]
        rw [ending]
        exact {
          atOnce := fun requests => absurd requests early
          refused := fun _ _ => ⟨rfl, rfl, isOf_reportOf⟩
          later := fun _ accepted => by rw [refused] at accepted; cases accepted
          atRest := isAtRest_reportOf orderedAfter fun _ _ => final
          logged := madeBy_reportOf starts.log }
    | none =>
        have nothing : (begun.limited limit now).end? = none := by
          simp [end?, sameFinal, cause?, going, sameChanges, sameErrors, sameDeaths, refused]
        obtain ⟨instants, last, time, observed, ended, ending, goesOn, isNext, passes, ends, increasing,
          log, endOrdered, survives, followed, verdict⟩ :=
          follow_ends _ now (isCalm_begun unstarted begins starts early refused) orderedAfter
            (isPaced_begun checks begins started) (budget_begun checks begins started start)
            (lt_timers_begun checks begins started ordered early) starts.log
        rw [nothing]
        simp only [followed]
        exact {
          atOnce := fun requests => absurd requests early
          refused := fun _ isRefused => by rw [refused] at isRefused; cases isRefused
          later := fun _ _ => ⟨instants, last, observed, ended, goesOn, isNext, passes, ends, verdict,
            increasing, isOf_reportOf⟩
          atRest := isAtRest_reportOf endOrdered survives
          logged := madeBy_reportOf log }

theorem attempts_time {World Opened : Type} (policy : RetryPolicy) (path : Text) (total : Nat)
    (opening : Instant → World → Except Text Opened × World) (attempt : Nat) (now : Instant)
    (world : World) (count : Nat) :
    let ended := (Connecting.attempts policy path total opening attempt now world count).1
    now ≤ ended.time ∧ MadeBy ended.time ended.log := by
  induction count generalizing attempt now world with
  | zero =>
      refine ⟨le_refl now, ?_⟩
      intro entry member
      exact absurd member List.not_mem_nil
  | succ count ih =>
      unfold Connecting.attempts
      split
      · refine ⟨le_refl now, ?_⟩
        intro entry member
        rw [List.mem_singleton.mp member]
        exact le_refl now
      · simp only
        split
        · refine ⟨le_refl now, ?_⟩
          intro entry member
          rw [List.mem_singleton.mp member]
          exact le_refl now
        · rename_i left _ _
          have waits : now ≤ now + policy.pause attempt := by
            have least := policy.pause_nonneg attempt
            linarith
          obtain ⟨later, made⟩ := ih (attempt + 1) (now + policy.pause attempt) left
          refine ⟨le_trans waits later, ?_⟩
          intro entry member
          rcases List.mem_cons.mp member with rfl | member
          · exact le_trans waits later
          · exact made entry member

theorem connecting_time {Opened : Type} (policy : RetryPolicy) (path : Text)
    (opened : Instant → Except Text Opened) (now : Instant) :
    now ≤ (Connecting.run policy path opened now).time ∧
      MadeBy (Connecting.run policy path opened now).time
        (Connecting.run policy path opened now).log := by
  unfold Connecting.run Connecting.follow
  split
  · exact ⟨le_refl now, fun entry member => absurd member List.not_mem_nil⟩
  · split
    · exact ⟨le_refl now, fun entry member => absurd member List.not_mem_nil⟩
    · exact attempts_time policy path _ _ 0 now () _

/-- The run of a plan whose migration succeeded and whose tasks are to start at an instant. -/
def IsStarted (plan : RunPlan EventType Own) (actions : List ScheduledAction)
    (workspace : Workspace) (own : Own) (now : Instant) (idle : LiveRun EventType Own) : Prop :=
  ∃ place opened changes source types tasks,
    (Connecting.run plan.retryPolicy plan.settings.databasePath
      (fun _ => workspace.openDatabase plan.settings.databasePath) 0).time = now ∧
    (Connecting.run plan.retryPolicy plan.settings.databasePath
      (fun _ => workspace.openDatabase plan.settings.databasePath) 0).outcome =
        .ok (place, opened) ∧
    (plan.workload.migrate place (opened, own)).changes = .ok changes ∧
    (plan.workload.prepare (plan.workload.migrate place (opened, own)).world).1 =
      .ok (source, types) ∧
    plan.tasks now types = .ok tasks ∧
    idle = plan.idle now actions place source tasks
      (plan.workload.prepare (plan.workload.migrate place (opened, own)).world).2

section Log

variable {limit now : Instant} {actions : List ScheduledAction} {read : Except FileFault Bytes}
  {begun : LiveRun EventType Own} {report : RunReport EventType Own}

theorem time_le_of_tellsOf (tells : report.TellsOf limit now actions read begun) :
    now ≤ report.time := by
  by_cases early : RequestedBy limit now actions
  · exact le_of_eq (tells.atOnce early).1.symm
  · cases refused : Watch.refusal? read with
    | some fault => exact le_of_eq (tells.refused early (by simp [refused])).1.symm
    | none =>
        obtain ⟨instants, last, _, _, _, _, _, _, _, increasing, _⟩ := tells.later early refused
        exact le_of_lt ((List.pairwise_cons.mp increasing).1 _ (by simp))

/-- What is told of a run holds also with what was logged before. -/
theorem tellsOf_log_append (tells : report.TellsOf limit now actions read begun)
    {entries : List LogEntry} (made : MadeBy now entries) :
    { report with log := entries ++ report.log }.TellsOf limit now actions read begun := by
  have same {run : LiveRun EventType Own} (isOf : report.IsOf run) :
      { report with log := entries ++ report.log }.IsOf run :=
    ⟨isOf.workspace, isOf.own, isOf.monitor⟩
  constructor
  · intro early
    obtain ⟨time, result, isOf⟩ := tells.atOnce early
    exact ⟨time, result, same isOf⟩
  · intro late refused
    obtain ⟨time, result, isOf⟩ := tells.refused late refused
    exact ⟨time, result, same isOf⟩
  · intro late accepted
    obtain ⟨instants, last, observed, final, goesOn, isNext, passes, ends, verdict, increasing, isOf⟩ :=
      tells.later late accepted
    exact ⟨instants, last, observed, final, goesOn, isNext, passes, ends, verdict, increasing,
      same isOf⟩
  · exact tells.atRest
  · exact (made.later (time_le_of_tellsOf tells)).append tells.logged

end Log

theorem madeBy_migrationEntries (now : Instant) (applied : List Text) (message : Text) :
    MadeBy now (migrationEntries now applied ++ [LogEntry.info now message]) := by
  intro entry member
  rcases List.mem_append.mp member with member | member
  · obtain ⟨statement, _, rfl⟩ := List.mem_map.mp member
    exact le_refl now
  · rw [List.mem_singleton.mp member]
    exact le_refl now

theorem madeBy_openingEntries (plan : RunPlan EventType Own) {now : Instant} (start : 0 ≤ now) :
    MadeBy now plan.openingEntries := by
  intro entry member
  simp only [openingEntries, List.mem_cons, List.not_mem_nil, or_false] at member
  rcases member with rfl | rfl <;> exact start

/-- A run whose tasks start ends at the first instant that brings what ends it, with the status that
its causes decide on, and is at rest from then on. -/
theorem run_ends_at_first_cause {plan : RunPlan EventType Own} {now : Instant} (limit : Instant)
    {actions : List ScheduledAction} {workspace : Workspace} {own : Own}
    {idle : LiveRun EventType Own} (started : plan.IsStarted actions workspace own now idle)
    (writes : 0.0 < plan.settings.writeInterval) (reads : 0.0 < plan.settings.readInterval)
    (checks : 0.0 < plan.settings.checkInterval) (reports : 0.0 < plan.settings.statsInterval)
    (ordered : InOrder actions) :
    ∃ read begun, Begins now idle read begun ∧
      (plan.run limit actions workspace own).TellsOf limit now actions read begun := by
  obtain ⟨place, opened, changes, source, types, tasks, time, connected, migrated, prepared, made,
    rfl⟩ := started
  obtain ⟨start, connectLog⟩ := connecting_time plan.retryPolicy plan.settings.databasePath
    (fun _ => workspace.openDatabase plan.settings.databasePath) 0
  rw [time] at start connectLog
  have starts := startAt_tasks writes reads reports made
  obtain ⟨read, begun, begins, tells⟩ := work_tells (Span.seconds_ofFloat_pos _ checks) starts start
    ordered limit place source
    (plan.workload.prepare (plan.workload.migrate place (opened, own)).world).2
  refine ⟨read, begun, begins, ?_⟩
  have migrates := tellsOf_log_append tells (madeBy_migrationEntries now
    (plan.workload.migrate place (opened, own)).applied (("Migration complete, " : Text) ++
      Text.ofNat changes ++ " change(s) applied"))
  have opens := tellsOf_log_append migrates ((madeBy_openingEntries plan start).append connectLog)
  unfold run
  simp only [connected, time, migrateAndWork, migrated, prepared, ok_bind, made, pure_eq_ok]
  exact opens

theorem changes_of_migrates (module : EventModule) (place : DatabasePlace) (world : Workspace × Unit)
    (migrates : (Migration.migrate (world.1.connection place) module).error = none) :
    ∃ changes, (module.workload.migrate place world).changes = .ok changes := by
  simp only [EventModule.workload, EventModule.migrate, migrates, Except.ok.injEq, exists_eq']

/-- A run that is to write a login each minute to a database in memory. -/
def loginPlan : RunPlan EventClass Unit where
  mode := .writer
  settings :=
    { databasePath := ":memory:", writeInterval := 60.0, readInterval := 60.0
      checkInterval := 60.0, statsInterval := 60.0 }
  workload := (Compilation.moduleOf Compilation.loginSchema (some "schema.yaml")).workload
  clock := fun _ => { nanoseconds := 0 }

theorem files_keep (workspace : Workspace) (place : DatabasePlace) (database : Database) :
    (workspace.keep place database).files = workspace.files := by
  unfold Workspace.keep
  split <;> rfl

theorem isStarted_loginPlan (actions : List ScheduledAction) (workspace : Workspace) :
    ∃ types tasks world, loginPlan.tasks 0 types = .ok tasks ∧ world.1.files = workspace.files ∧
      loginPlan.IsStarted actions workspace () 0
        (loginPlan.idle 0 actions none "schema.yaml" tasks world) := by
  have plain := Migration.hasPlainNames_of_loads _ none Compilation.accepts_loginSchema _ _ _
    Migration.compiles_loginSchema.2
  have migrates : (Migration.migrate ((workspace.keep none .empty).connection none)
      (Compilation.moduleOf Compilation.loginSchema (some "schema.yaml"))).error = none := by
    refine (Migration.migrate_moduleOf_iff Compilation.loginSchema (some "schema.yaml")
      Compilation.accepts_loginSchema plain _ ⟨rfl, rfl⟩ ?_).mpr Migration.hasFreeNames_loginSchema
    have empty : ((workspace.keep none .empty).connection none).database = .empty := by
      have nothing (others : List (DatabasePlace × Database)) :
          others.find? (fun _ => false) = none := by
        rw [List.find?_eq_none]
        simp
      simp [Workspace.connection, Workspace.database, Workspace.keep, Workspace.isForeign,
        List.find?_append, nothing]
    rw [empty]
    exact Migration.holds_empty _
  have connected : Connecting.run loginPlan.retryPolicy loginPlan.settings.databasePath
      (fun _ => workspace.openDatabase loginPlan.settings.databasePath) 0 =
        { time := 0, outcome := .ok (none, workspace.keep none .empty)
          log := [Connecting.successEntry 0 ":memory:"] } := rfl
  obtain ⟨changes, migrated⟩ : ∃ changes, (loginPlan.workload.migrate none
      (workspace.keep none .empty, ())).changes = .ok changes :=
    changes_of_migrates _ none _ migrates
  obtain ⟨tasks, made⟩ := tasks_of_types loginPlan 0 (LoadLoop.sorted
      (Compilation.moduleOf Compilation.loginSchema (some "schema.yaml")).constructors) (by
    intro none
    have length := congrArg List.length none
    rw [LoadLoop.sorted, List.length_mergeSort, EventModule.constructors, List.length_map,
      Compilation.classes_moduleOf, List.length_map,
      (Validation.sortEvents_perm _).length_eq] at length
    exact absurd length (by decide))
  refine ⟨_, tasks, _, made, ?_, none, _, changes, "schema.yaml", _, tasks, by rw [connected],
    by rw [connected], migrated, rfl, made, rfl⟩
  exact (files_keep _ _ _).trans (files_keep _ _ _)

/-- Within its first minute a run of the plan waits only for the shutdown. -/
theorem waits_loginPlan {types : List (Text × EventClass)} {tasks : List (LoopTask EventClass)}
    {world : Workspace × Unit} {read : Except FileFault Bytes} {begun : LiveRun EventClass Unit}
    (made : loginPlan.tasks 0 types = .ok tasks)
    (begins : Begins 0 (loginPlan.idle 0 [⟨12, .shutdown⟩] none "schema.yaml" tasks world) read begun) :
    begun.nextPoll = 60 ∧ (∀ task ∈ begun.loops, task.work.cadence.deadline = 60) ∧
      begun.actions = [⟨12, .shutdown⟩] := by
  have minute : (Span.ofFloat 60.0).seconds = 60 := by decide +kernel
  refine ⟨?_, ?_, begins.actions⟩
  · rw [begins.nextPoll]
    exact (zero_add _).trans minute
  · rw [begins.loops]
    intro task member
    obtain ⟨work, listed, rfl⟩ := List.mem_map.mp member
    obtain ⟨interval, isOne, cadence⟩ := cadence_of_mem_tasks made work listed
    obtain rfl : interval = 60.0 := isOne.elim id id
    have stats : loginPlan.settings.statsInterval = 60.0 := rfl
    rw [cadence, stats, minute]
    decide +kernel

theorem loginPlan_ends :
    ∃ idle, loginPlan.IsStarted [⟨12, .shutdown⟩] { files := ⟨[], []⟩ } () 0 idle ∧
      let report := loginPlan.run 900 [⟨12, .shutdown⟩] { files := ⟨[], []⟩ } ()
      report.time = 12 ∧ report.result = .ok .ok ∧
        ∃ left, report.left = some left ∧ left.IsAtRest := by
  obtain ⟨types, tasks, world, made, files, started⟩ :=
    isStarted_loginPlan [⟨12, .shutdown⟩] { files := ⟨[], []⟩ }
  obtain ⟨read, begun, begins, tells⟩ := run_ends_at_first_cause 900 started (by decide) (by decide)
    (by decide) (by decide) (by simp [InOrder])
  obtain ⟨nextPoll, deadlines, actions⟩ := waits_loginPlan made begins
  have late : ¬RequestedBy 900 0 [⟨12, .shutdown⟩] := by
    simp [RequestedBy]
  have accepted : Watch.refusal? read = none := by
    have same : begun.workspace.files = ⟨[], []⟩ := by
      rw [begins.workspace]
      exact files
    rw [begins.reads, same]
    rfl
  have first {now : Instant} (isNext : begun.IsNext 900 now) : now = 12 := by
    have timers := fun time => mem_timers_iff 900 time begun
    have early : now ≤ 12 := isNext.first 12 ((timers 12).mpr (by simp [actions]))
    rcases (timers now).mp isNext.isTimer with
      same | same | ⟨cadence, listed, same⟩ | ⟨scheduled, listed, same⟩
    · exact absurd (same ▸ early) (by decide)
    · exact absurd ((same.trans nextPoll) ▸ early) (by decide)
    · obtain ⟨task, member, rfl⟩ := List.mem_map.mp listed
      exact absurd ((same.symm.trans (deadlines task member)) ▸ early) (by decide)
    · rw [actions, List.mem_singleton] at listed
      rw [← same, listed]
  obtain ⟨instants, last, observed, final, goesOn, isNext, passes, _, verdict, _, _⟩ :=
    tells.later late accepted
  refine ⟨_, started, ?_⟩
  cases goesOn with
  | go next passes quiet further =>
      refine absurd (.inl (.inr ?_)) quiet
      rw [first next, actions]
      exact ⟨_, List.mem_singleton.mpr rfl, le_refl _, rfl⟩
  | stay =>
      have time := first isNext
      rw [time] at passes verdict
      obtain ⟨unperformed, _⟩ := idle_turns passes.turns fun task member turn =>
        absurd ((deadlines task member) ▸ turn.2) (by decide)
      have unread : observed.read = none := by
        rw [Option.eq_none_iff_forall_ne_some]
        intro found polled
        exact absurd (nextPoll ▸ (passes.polled.mp ⟨found, polled⟩).2.1) (by decide)
      have quiet : observed.final? = none := by
        simp [Observed.final?, Observed.deaths, Observed.deathsOf, unperformed, unread]
      have result := verdict.ok quiet (.inr ⟨⟨12, .shutdown⟩, by simp [actions], le_refl _, rfl⟩)
      exact ⟨time, result, tells.atRest _ result⟩

end RunPlan

end EventForge
