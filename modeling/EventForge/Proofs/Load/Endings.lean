import EventForge.Proofs.Load.Instants

/-!
# How a supervised run ends

A run goes from one instant at which something can happen to the next.  The first of them that brings
a shutdown, a source that differs from the baseline, a failed operation or the death of a task is the
last one: its causes decide on the status.  The run stops its tasks then, and nothing happens to it
any more.
-/

namespace EventForge

/-- Whether actions request a shutdown up to an instant.  One is requested at the limit anyway. -/
def RequestedBy (limit now : Instant) (actions : List ScheduledAction) : Prop :=
  limit ≤ now ∨ ∃ scheduled ∈ actions, scheduled.time ≤ now ∧ scheduled.action.isRequest = true

/-- The failure that ends the program wherever it happens, if a task dies of one. -/
def Observed.final? (observed : Observed) : Option Fault :=
  observed.deaths.find? fun fault => fault.reach = .final

namespace LiveRun

variable {EventType Own : Type}

/-- The instants at which something can happen to a run. -/
def timers (limit : Instant) (run : LiveRun EventType Own) : List Instant :=
  limit :: run.nextPoll :: run.loops.map (fun task => task.work.cadence.deadline) ++
    run.actions.map fun scheduled => scheduled.time

/-- Whether an instant is the first at which something can happen. -/
structure IsNext (limit now : Instant) (run : LiveRun EventType Own) : Prop where
  isTimer : now ∈ run.timers limit
  first : ∀ time ∈ run.timers limit, now ≤ time

/-- Whether a shutdown is requested up to an instant. -/
def IsRequested (limit now : Instant) (run : LiveRun EventType Own) : Prop :=
  RequestedBy limit now run.actions

/-- Whether what an instant brings ends a run. -/
def EndsAt (limit now : Instant) (run : LiveRun EventType Own) (observed : Observed) : Prop :=
  run.IsRequested limit now ∨ observed.Differs run.monitor.work ∨ observed.failures ≠ [] ∨
    observed.deaths ≠ []

/-- A run goes on to another one by instants that bring nothing that ends it. -/
inductive GoesOn (limit : Instant) :
    LiveRun EventType Own → List (Instant × Observed) → LiveRun EventType Own → Prop
  | stay (run : LiveRun EventType Own) : GoesOn limit run [] run
  | go {run next later : LiveRun EventType Own} {now : Instant} {observed : Observed}
      {instants : List (Instant × Observed)} (isNext : run.IsNext limit now)
      (passes : Passes now run observed next) (quiet : ¬run.EndsAt limit now observed)
      (further : GoesOn limit next instants later) :
      GoesOn limit run ((now, observed) :: instants) later

/-- The result of a run that an instant ends: a shutdown counts before a change of the source, and
that before failures.  A failure that ends the program wherever it happens ends it here too. -/
structure IsVerdict (limit now : Instant) (run : LiveRun EventType Own) (observed : Observed)
    (result : Except Fault ExitStatus) : Prop where
  final : ∀ fault, observed.final? = some fault → result = .error fault
  ok : observed.final? = none → run.IsRequested limit now → result = .ok .ok
  changed : observed.final? = none → ¬run.IsRequested limit now →
    observed.Differs run.monitor.work → result = .ok .schemaChanged
  failed : observed.final? = none → ¬run.IsRequested limit now →
    ¬observed.Differs run.monitor.work → result = .ok .failed

/-- Instants that make one run of another. -/
inductive PassesAll :
    LiveRun EventType Own → List (Instant × Observed) → LiveRun EventType Own → Prop
  | nil (run : LiveRun EventType Own) : PassesAll run [] run
  | cons {run next later : LiveRun EventType Own} {now : Instant} {observed : Observed}
      {instants : List (Instant × Observed)} (passes : Passes now run observed next)
      (further : PassesAll next instants later) : PassesAll run ((now, observed) :: instants) later

/-- What the start of its tasks makes of a run: the actions that are due happen, and the monitor reads
the source for the first time. -/
structure Begins (now : Instant) (idle : LiveRun EventType Own) (read : Except FileFault Bytes)
    (begun : LiveRun EventType Own) : Prop where
  workspace : begun.workspace = RunPlan.workspaceAt idle.workspace idle.actions now
  own : begun.own = idle.own
  reads : read = begun.workspace.files.read idle.monitor.work.path
  monitor : begun.monitor = monitorAfter idle.monitor (some read)
  actions : begun.actions = idle.actions.dropWhile fun scheduled => scheduled.time ≤ now
  loops : begun.loops = idle.loops
  nextPoll : begun.nextPoll = idle.nextPoll
  checkInterval : begun.checkInterval = idle.checkInterval
  tick : begun.tick = idle.tick
  clock : begun.clock = idle.clock
  connection : begun.connection = idle.connection

/-- Whether nothing happens to a run any more: no task is alive, the connection is closed, and
whatever instants come, no operation is performed and nothing is read. -/
structure IsAtRest (run : LiveRun EventType Own) : Prop where
  alive : run.alive = []
  closed : run.connection = none
  still : ∀ instants later, PassesAll run instants later → ∀ instant ∈ instants, instant.2 = {}
  lasts : ∀ times : List Instant, PassesAll run (times.map fun now => (now, {}))
    (times.foldl (fun run now => run.advance now) run)

/-!
## The next instant
-/

theorem isNext_nextInstant (limit : Instant) (run : LiveRun EventType Own)
    (ordered : InOrder run.actions) : run.IsNext limit (run.nextInstant limit) := by
  have member := foldl_earlier_mem limit (run.nextPoll ::
    run.loops.map (fun task => task.work.cadence.deadline) ++
      (run.actions.head?.map fun scheduled => scheduled.time).toList)
  obtain ⟨low, each⟩ := foldl_earlier_le limit (run.nextPoll ::
    run.loops.map (fun task => task.work.cadence.deadline) ++
      (run.actions.head?.map fun scheduled => scheduled.time).toList)
  constructor
  · unfold nextInstant timers
    simp only [List.cons_append, List.mem_cons, List.mem_append] at member ⊢
    rcases member with found | found | found | found
    · exact .inl found
    · exact .inr (.inl found)
    · exact .inr (.inr (.inl found))
    · refine .inr (.inr (.inr ?_))
      cases actions : run.actions with
      | nil => simp [actions] at found
      | cons scheduled others =>
          simp only [actions, List.head?_cons, Option.map_some, Option.toList_some,
            List.mem_singleton] at found
          simp [found]
  · intro time timer
    unfold timers at timer
    simp only [List.cons_append, List.mem_cons, List.mem_append] at timer
    rcases timer with rfl | rfl | timer | timer
    · exact low
    · exact each _ (by simp)
    · exact each time (by simp only [List.cons_append, List.mem_cons, List.mem_append]; tauto)
    · obtain ⟨scheduled, listed, rfl⟩ := List.mem_map.mp timer
      cases actions : run.actions with
      | nil => simp [actions] at listed
      | cons head others =>
          have soonest : run.nextInstant limit ≤ head.time := each head.time (by simp [actions])
          rw [actions] at listed ordered
          rcases List.mem_cons.mp listed with rfl | behind
          · exact soonest
          · exact le_trans soonest ((List.pairwise_cons.mp ordered).1 scheduled behind)

/-!
## What can still happen
-/

/-- Whether nothing happened to a run yet that ends it. -/
structure IsCalm (run : LiveRun EventType Own) : Prop where
  shutdown : run.shutdown = false
  errors : run.errors = []
  changes : run.changes = []
  loops : ∀ task ∈ run.loops, task.state.isWorking = true
  monitor : run.monitor.state.isWorking = true

/-- The cadences of the loops. -/
def cadences (run : LiveRun EventType Own) : List Cadence :=
  run.loops.map fun task => task.work.cadence

/-- How many instants before the limit can still bring something. -/
def budget (limit : Instant) (run : LiveRun EventType Own) : Nat :=
  cadencesBudget limit run.cadences + remaining limit run.nextPoll run.checkInterval.seconds +
    run.actions.length

structure IsPaced (run : LiveRun EventType Own) : Prop where
  polls : 0 < run.checkInterval.seconds
  loops : ∀ cadence ∈ run.cadences, IsPositive cadence

section Passing

variable {limit now : Instant} {run next : LiveRun EventType Own} {observed : Observed}

theorem IsCalm.final?_eq_none (calm : run.IsCalm) : run.final? = none :=
  (final?_eq_none_iff run).mpr ⟨fun task member => not_isLost_of_isWorking (calm.loops task member),
    not_isLost_of_isWorking calm.monitor⟩

theorem lt_limit_of_quiet (quiet : ¬run.EndsAt limit now observed) : now < limit :=
  not_le.mp fun late => quiet (.inl (.inl late))

theorem deaths_of_quiet (quiet : ¬run.EndsAt limit now observed) : observed.deaths = [] :=
  Classical.byContradiction fun dead => quiet (.inr (.inr (.inr dead)))

theorem deathsOf_of_quiet (quiet : ¬run.EndsAt limit now observed) :
    Observed.deathsOf observed.operations = [] :=
  (List.append_eq_nil_iff.mp (deaths_of_quiet quiet)).1

/-- Of a run that goes on the tasks die that an instant brings death to. -/
theorem map_deaths (calm : run.IsCalm) (passes : Passes now run observed next) :
    next.deaths.map Prod.snd = observed.deaths := by
  have loops := deaths_turns passes.turns calm.loops
  have monitor : (next.monitor.state.death?).toList = (observed.read.bind Watch.refusal?).toList := by
    rw [passes.monitor]
    cases observed.read with
    | none => simp [monitorAfter, death?_of_isWorking calm.monitor]
    | some read =>
        cases refused : Watch.refusal? read <;> simp [monitorAfter, refused, TaskState.death?]
  rw [Observed.deaths, ← loops, ← monitor]
  simp only [deaths, List.map_append, List.map_filterMap, Option.map_map, Function.comp_def,
    Option.map_id']
  congr 1
  cases next.monitor.state.death? <;> rfl

/-- Behind an instant that ends nothing every loop has the cadence of its wake-ups. -/
theorem cadences_passes (calm : run.IsCalm) (passes : Passes now run observed next)
    (quiet : ¬run.EndsAt limit now observed) :
    next.cadences = run.cadences.map (cadenceAfter now) := by
  rw [cadences, (cadences_turns passes.turns calm.loops (deathsOf_of_quiet quiet)).2, cadences,
    List.map_map]
  rfl

/-- Behind an instant that ends nothing the next poll lies ahead. -/
theorem nextPoll_passes (calm : run.IsCalm) (passes : Passes now run observed next)
    (quiet : ¬run.EndsAt limit now observed) :
    next.nextPoll =
      if run.nextPoll ≤ now then now + run.checkInterval.seconds else run.nextPoll := by
  have polled : observed.read.isSome = true ↔ run.nextPoll ≤ now := by
    rw [Option.isSome_iff_exists, passes.polled]
    simp [calm.monitor, deathsOf_of_quiet quiet]
  rw [passes.nextPoll]
  exact if_congr polled rfl rfl

/-- A run that an instant does not end stays calm. -/
theorem IsCalm.passes (calm : run.IsCalm) (passes : Passes now run observed next)
    (tells : Tells now run observed next) (quiet : ¬run.EndsAt limit now observed) : next.IsCalm := by
  have deaths := deaths_of_quiet quiet
  obtain ⟨paths, changes, announces⟩ := tells.changes
  constructor
  · rw [Bool.eq_false_iff]
    intro stopped
    rcases passes.shutdown.mp stopped with before | requested
    · rw [calm.shutdown] at before
      cases before
    · exact quiet (.inl (.inr requested))
  · rw [tells.errors, calm.errors, List.nil_append]
    exact Classical.byContradiction fun fails => quiet (.inr (.inr (.inl fails)))
  · rw [changes, calm.changes, List.nil_append]
    exact Classical.byContradiction fun differs => quiet (.inr (.inl (announces.mp differs)))
  · exact (cadences_turns passes.turns calm.loops (deathsOf_of_quiet quiet)).1
  · rw [passes.monitor]
    have accepted := (List.append_eq_nil_iff.mp deaths).2
    cases found : observed.read with
    | none => exact calm.monitor
    | some read =>
        have accepted : Watch.refusal? read = none := by simpa [found] using accepted
        simp [monitorAfter, accepted, TaskState.isWorking]

theorem isPaced_passes (paced : run.IsPaced) (calm : run.IsCalm)
    (passes : Passes now run observed next) (quiet : ¬run.EndsAt limit now observed) :
    next.IsPaced := by
  refine ⟨by rw [passes.checkInterval]; exact paced.polls, ?_⟩
  rw [cadences_passes calm passes quiet]
  intro cadence member
  obtain ⟨before, listed, rfl⟩ := List.mem_map.mp member
  exact isPositive_cadenceAfter (paced.loops before listed) now

/-- The timers of a run, by the cadences of its loops. -/
theorem mem_timers_iff (limit time : Instant) (run : LiveRun EventType Own) :
    time ∈ run.timers limit ↔ time = limit ∨ time = run.nextPoll ∨
      (∃ cadence ∈ run.cadences, cadence.deadline = time) ∨
        ∃ scheduled ∈ run.actions, scheduled.time = time := by
  simp [timers, cadences]

/-- All that can still happen behind an instant happens later. -/
theorem timers_passes (paced : run.IsPaced) (calm : run.IsCalm) (ordered : InOrder run.actions)
    (passes : Passes now run observed next) (quiet : ¬run.EndsAt limit now observed) :
    ∀ time ∈ next.timers limit, now < time := by
  intro time timer
  rcases (mem_timers_iff limit time next).mp timer with
    rfl | rfl | ⟨cadence, listed, rfl⟩ | ⟨scheduled, listed, rfl⟩
  · exact lt_limit_of_quiet quiet
  · rw [nextPoll_passes calm passes quiet]
    split
    · have forward := paced.polls
      linarith
    · rename_i early
      exact not_le.mp early
  · rw [cadences_passes calm passes quiet] at listed
    obtain ⟨before, member, rfl⟩ := List.mem_map.mp listed
    exact lt_deadline_cadenceAfter (paced.loops before member) now
  · rw [passes.actions] at listed
    exact ((mem_dropWhile_iff now run.actions ordered scheduled).mp listed).2

/-- An instant that ends nothing uses up one of those that can bring something. -/
theorem budget_passes (paced : run.IsPaced) (calm : run.IsCalm) (ordered : InOrder run.actions)
    (isNext : run.IsNext limit now) (passes : Passes now run observed next)
    (quiet : ¬run.EndsAt limit now observed) : next.budget limit + 1 ≤ run.budget limit := by
  have before := lt_limit_of_quiet quiet
  obtain ⟨loops, loopsFewer⟩ := cadencesBudget_after run.cadences paced.loops limit now
  have nextPoll := nextPoll_passes calm passes quiet
  have polls : remaining limit next.nextPoll run.checkInterval.seconds ≤
      remaining limit run.nextPoll run.checkInterval.seconds := by
    rw [nextPoll]
    split
    · exact remaining_mono limit paced.polls (by have := paced.polls; linarith)
    · exact le_refl _
  have actions : next.actions.length ≤ run.actions.length := by
    rw [passes.actions]
    exact (List.dropWhile_sublist _).length_le
  unfold budget
  rw [cadences_passes calm passes quiet, passes.checkInterval]
  rcases (mem_timers_iff limit now run).mp isNext.isTimer with
    same | same | ⟨cadence, listed, same⟩ | ⟨scheduled, listed, same⟩
  · exact absurd (le_of_eq same.symm) (not_le.mpr before)
  · have moved : remaining limit next.nextPoll run.checkInterval.seconds + 1 ≤
        remaining limit run.nextPoll run.checkInterval.seconds := by
      rw [nextPoll, if_pos (le_of_eq same.symm)]
      exact remaining_moved paced.polls (by rwa [← same]) (by rw [same])
    omega
  · have fewer := loopsFewer before ⟨cadence, listed, le_of_eq same⟩
    omega
  · have fewer : next.actions.length < run.actions.length := by
      rw [passes.actions]
      refine lt_of_le_of_ne (List.dropWhile_sublist _).length_le ?_
      intro equal
      have whole := (List.dropWhile_sublist _).eq_of_length equal
      rw [← whole] at listed
      have after := ((mem_dropWhile_iff now run.actions ordered scheduled).mp listed).2
      rw [same] at after
      exact lt_irrefl now after
    omega

end Passing

/-!
## The end of a run
-/

section Ends

variable {limit now : Instant} {run next : LiveRun EventType Own} {observed : Observed}

theorem final?_passes (calm : run.IsCalm) (passes : Passes now run observed next) :
    next.final? = observed.final? := by
  rw [Observed.final?, ← map_deaths calm passes, List.find?_map]
  rfl

theorem shutdown_limited (calm : run.IsCalm) (passes : Passes now run observed next)
    (limit : Instant) : (next.limited limit now).shutdown = true ↔ run.IsRequested limit now := by
  have shutdown := passes.shutdown
  simp only [calm.shutdown, Bool.false_eq_true, false_or] at shutdown
  rw [limited, Bool.or_eq_true, shutdown, decide_eq_true_eq, IsRequested, RequestedBy, or_comm]

/-- An instant either brings nothing that ends a run, or it ends the run with what its causes
decide. -/
theorem end?_cases (calm : run.IsCalm) (passes : Passes now run observed next)
    (tells : Tells now run observed next) (limit : Instant) :
    ((next.limited limit now).end? = none ∧ ¬run.EndsAt limit now observed) ∨
      ∃ ending, (next.limited limit now).end? = some ending ∧ run.EndsAt limit now observed ∧
        run.IsVerdict limit now observed (ending.map StopCause.status) := by
  have requested := shutdown_limited calm passes limit
  have deaths := map_deaths calm passes
  have errors : next.errors = observed.failures := by rw [tells.errors, calm.errors]; rfl
  obtain ⟨paths, changes, announces⟩ := tells.changes
  rw [calm.changes, List.nil_append] at changes
  have final? := final?_passes calm passes
  have sameFinal : (next.limited limit now).final? = observed.final? := final?
  unfold end?
  rw [sameFinal]
  cases final : observed.final? with
  | some fault =>
      have dead : observed.deaths ≠ [] := by
        intro none
        simp [Observed.final?, none] at final
      refine .inr ⟨_, rfl, .inr (.inr (.inr dead)), ?_⟩
      constructor
      · intro other found
        rw [final] at found
        obtain rfl := Option.some.inj found
        rfl
      all_goals simp [final]
  | none =>
      simp only
      unfold cause?
      by_cases shutdown : run.IsRequested limit now
      · refine .inr ⟨.ok .shutdown, by simp [requested.mpr shutdown], .inl shutdown, ?_⟩
        constructor <;> simp [final, shutdown, Except.map, StopCause.status]
      · have going : ¬(next.limited limit now).shutdown = true :=
          fun stopped => shutdown (requested.mp stopped)
        have sameChanges : (next.limited limit now).changes = paths := changes
        have sameErrors : (next.limited limit now).errors = observed.failures := errors
        have sameDeaths : (next.limited limit now).deaths.map Prod.snd = observed.deaths := deaths
        rw [if_neg going, sameChanges, sameErrors]
        cases paths with
        | cons path others =>
            have differs := announces.mp (by simp)
            refine .inr ⟨.ok (.schemaChanged path), rfl, .inr (.inl differs), ?_⟩
            constructor <;> simp [final, shutdown, differs, Except.map, StopCause.status]
        | nil =>
            have same : ¬observed.Differs run.monitor.work := fun differs =>
              announces.mpr differs rfl
            cases failures : observed.failures with
            | cons fault others =>
                refine .inr ⟨.ok (.operation fault), rfl, .inr (.inr (.inl (by simp [failures]))), ?_⟩
                constructor <;> simp [final, shutdown, same, Except.map, StopCause.status]
            | nil =>
                cases died : (next.limited limit now).deaths with
                | nil =>
                    have alive : observed.deaths = [] := by rw [← sameDeaths, died]; rfl
                    refine .inl ⟨rfl, ?_⟩
                    simp [EndsAt, shutdown, same, failures, alive]
                | cons death others =>
                    have dead : observed.deaths ≠ [] := by simp [← sameDeaths, died]
                    refine .inr ⟨.ok (.death (death :: others)), rfl, .inr (.inr (.inr dead)), ?_⟩
                    constructor <;> simp [final, shutdown, same, Except.map, StopCause.status]

theorem final?_of_end? {cause : StopCause} (ended : (run.limited limit now).end? = some (.ok cause)) :
    run.final? = none := by
  have same : (run.limited limit now).final? = run.final? := rfl
  unfold end? at ended
  rw [same] at ended
  cases final : run.final? with
  | none => rfl
  | some fault => simp [final] at ended

/-- A run with fuel for all instants up to the limit goes on up to the first one that brings what
ends it. -/
theorem follow_ends (fuel : Nat) (past : Instant) (calm : run.IsCalm) (ordered : InOrder run.actions)
    (paced : run.IsPaced) (enough : run.budget limit < fuel)
    (after : ∀ time ∈ run.timers limit, past < time) (made : MadeBy past run.log) :
    ∃ instants last now observed final ending, GoesOn limit run instants last ∧
      last.IsNext limit now ∧ Passes now last observed final ∧ last.EndsAt limit now observed ∧
      (past :: (instants.map Prod.fst ++ [now])).Pairwise (· < ·) ∧ MadeBy now final.log ∧
      InOrder final.actions ∧ (∀ cause, ending = .ok cause → final.final? = none) ∧
      run.follow limit fuel = (final, now, ending) ∧
      last.IsVerdict limit now observed (ending.map StopCause.status) := by
  induction fuel generalizing run past with
  | zero => omega
  | succ fuel ih =>
      have isNext := isNext_nextInstant limit run ordered
      have later := after _ isNext.isTimer
      obtain ⟨observed, passes, tells⟩ :=
        exists_passes (run.nextInstant limit) run ordered calm.final?_eq_none
      have madeNow := tells.log (made.later (le_of_lt later))
      have orderedNow : InOrder (run.advance (run.nextInstant limit)).actions := by
        rw [passes.actions]
        exact ordered.sublist (List.dropWhile_sublist _)
      rcases end?_cases calm passes tells limit with ⟨nothing, quiet⟩ | ⟨ending, ended, ends, verdict⟩
      · have followed : run.follow limit (fuel + 1) =
            (run.advance (run.nextInstant limit)).follow limit fuel := by
          simp only [follow, nothing]
        have spent := budget_passes paced calm ordered isNext passes quiet
        obtain ⟨instants, last, now, bringing, final, ending, goesOn, lastNext, lastPasses, ends,
          increasing, log, lastOrdered, survives, result, verdict⟩ :=
          ih (run.nextInstant limit) (calm.passes passes tells quiet) orderedNow
            (isPaced_passes paced calm passes quiet) (by omega)
            (timers_passes paced calm ordered passes quiet) madeNow
        refine ⟨(run.nextInstant limit, observed) :: instants, last, now, bringing, final, ending,
          .go isNext passes quiet goesOn, lastNext, lastPasses, ends, ?_, log, lastOrdered,
          survives, followed.trans result, verdict⟩
        rw [List.map_cons, List.cons_append, List.pairwise_cons]
        refine ⟨?_, increasing⟩
        intro time member
        rcases List.mem_cons.mp member with rfl | member
        · exact later
        · exact lt_trans later ((List.pairwise_cons.mp increasing).1 time member)
      · refine ⟨[], run, run.nextInstant limit, observed, _, ending, .stay run, isNext, passes, ends,
          ?_, madeNow, orderedNow, ?_, ?_, verdict⟩
        · simpa using later
        · rintro cause rfl
          exact final?_of_end? ended
        · simp only [follow, ended]

end Ends

/-!
## The start of a run
-/

section Start

/-- Whether the tasks of a run have not started yet. -/
structure IsIdle (run : LiveRun EventType Own) : Prop where
  shutdown : run.shutdown = false
  errors : run.errors = []
  changes : run.changes = []
  log : run.log = []
  baseline : run.monitor.work.baseline = none
  loops : ∀ task ∈ run.loops, task.state.isWorking = true

/-- What the start of its tasks tells of a run. -/
structure Starts (limit now : Instant) (idle begun : LiveRun EventType Own) : Prop where
  shutdown : (begun.limited limit now).shutdown = true ↔ idle.IsRequested limit now
  errors : begun.errors = []
  changes : begun.changes = []
  log : MadeBy now begun.log

variable {limit now : Instant} {idle begun : LiveRun EventType Own} {read : Except FileFault Bytes}

theorem exists_begins (limit now : Instant) (unstarted : idle.IsIdle)
    (ordered : InOrder idle.actions) :
    ∃ read, Begins now idle read ((idle.actAll now).start now) ∧
      Starts limit now idle ((idle.actAll now).start now) := by
  obtain ⟨acting, actingMade, acted⟩ := actAll_eq now idle ordered
  let entries := (idle.actAll now).loops.map (fun task => task.work.startEntry now) ++
    [LogEntry.info now ((idle.actAll now).monitor.work.startMessage (idle.actAll now).checkInterval)]
  obtain ⟨_, polling, pollingMade, polled⟩ :=
    poll_eq now { idle.actAll now with log := (idle.actAll now).log ++ entries } rfl
  have started : (idle.actAll now).start now =
      ({ idle.actAll now with log := (idle.actAll now).log ++ entries }.poll now).tellErrors now := rfl
  have entriesMade : MadeBy now entries := by
    refine MadeBy.append ?_ ?_
    · intro entry member
      obtain ⟨task, _, rfl⟩ := List.mem_map.mp member
      exact le_refl now
    · intro entry member
      rw [List.mem_singleton.mp member]
      exact le_refl now
  rw [started, polled]
  simp only [acted]
  refine ⟨_, ⟨rfl, rfl, rfl, rfl, rfl, rfl, rfl, rfl, rfl, rfl, rfl⟩, ?_⟩
  refine ⟨?_, unstarted.errors, ?_, ?_⟩
  · simp [limited, unstarted.shutdown, IsRequested, RequestedBy, or_comm]
  · rw [unstarted.changes, List.nil_append]
    refine Classical.byContradiction fun announces => ?_
    obtain ⟨first, _, known, _⟩ := (announced_poll_iff _ _).mp announces
    rw [unstarted.baseline] at known
    cases known
  · refine MadeBy.append (MadeBy.append (MadeBy.append ?_ actingMade) entriesMade) pollingMade
    rw [unstarted.log]
    exact fun entry member => absurd member List.not_mem_nil

theorem handled_refusal {fault : Fault} (refused : Watch.refusal? read = some fault) :
    fault.reach ≠ .final := by
  cases read with
  | ok content => cases refused
  | error failure =>
      simp only [Watch.refusal?] at refused
      split at refused
      · cases refused
      · have handled : failure.fault.reach = .handled := rfl
        rw [← Option.some.inj refused, handled]
        decide

theorem final?_begun (unstarted : idle.IsIdle) (begins : Begins now idle read begun) :
    begun.final? = none := by
  refine (final?_eq_none_iff begun).mpr ⟨?_, ?_⟩
  · rw [begins.loops]
    exact fun task member => not_isLost_of_isWorking (unstarted.loops task member)
  · rw [begins.monitor]
    cases refused : Watch.refusal? read with
    | none => exact not_isLost_of_isWorking (by simp [monitorAfter, refused, TaskState.isWorking])
    | some fault =>
        simpa [monitorAfter, refused] using (isLost_died fault).not.mpr (handled_refusal refused)

theorem deaths_begun (unstarted : idle.IsIdle) (begins : Begins now idle read begun) :
    begun.deaths = ((Watch.refusal? read).map fun fault => (TaskName.monitor, fault)).toList := by
  have loops : begun.loops.filterMap (fun task =>
      task.state.death?.map fun fault => (TaskName.loop task.work.loop.kind, fault)) = [] := by
    rw [begins.loops, List.filterMap_eq_nil_iff]
    intro task member
    rw [death?_of_isWorking (unstarted.loops task member)]
    rfl
  rw [deaths, loops, List.nil_append, begins.monitor]
  cases refused : Watch.refusal? read <;> simp [monitorAfter, refused, TaskState.death?]

/-- A run on which no shutdown is requested is calm when its tasks start, unless its source is
refused. -/
theorem isCalm_begun (unstarted : idle.IsIdle) (begins : Begins now idle read begun)
    (starts : Starts limit now idle begun) (going : ¬idle.IsRequested limit now)
    (accepted : Watch.refusal? read = none) : begun.IsCalm where
  shutdown := by
    rw [Bool.eq_false_iff]
    intro stopped
    exact going (starts.shutdown.mp (by simp [limited, stopped]))
  errors := starts.errors
  changes := starts.changes
  loops := by rw [begins.loops]; exact unstarted.loops
  monitor := by rw [begins.monitor]; simp [monitorAfter, accepted, TaskState.isWorking]

/-- The bound for the instants of a run counts at least those that its loops can bring. -/
theorem cadencesBudget_le (limit : Instant) (tasks : List (Supervised (LoopTask EventType)))
    (paced : ∀ task ∈ tasks, IsPositive task.work.cadence ∧ 0 ≤ task.work.cadence.nextOperation ∧
      0 ≤ task.work.cadence.nextReport) (sum : Nat) :
    sum + cadencesBudget limit (tasks.map fun task => task.work.cadence) ≤
      tasks.foldl (fun sum task => sum + ((limit / task.work.cadence.interval).floor.toNat + 1) +
        ((limit / task.work.cadence.statsInterval).floor.toNat + 1)) sum := by
  induction tasks generalizing sum with
  | nil => simp [cadencesBudget]
  | cons task tasks ih =>
      obtain ⟨⟨interval, statsInterval⟩, operation, report⟩ := paced task (by simp)
      have operations := remaining_start limit interval operation
      have reports := remaining_start limit statsInterval report
      refine le_trans ?_ (ih (fun other member => paced other (by simp [member])) _)
      simp only [List.map_cons, cadencesBudget, cadenceBudget, List.sum_cons]
      omega

end Start

/-!
## Rest
-/

section Rest

variable {now : Instant} {run : LiveRun EventType Own}

theorem isAlive_join_cancel (reason : Text) (state : TaskState) :
    (state.cancel reason).join.isAlive = false := by
  cases state <;> rfl

/-- Behind the cancellation of all tasks and the wait for them none is alive, before the connection is
closed. -/
theorem alive_joinAll (now : Instant) (reason : Text) (run : LiveRun EventType Own) :
    ((run.cancelAll reason).joinAll now).alive = [] := by
  simp [alive, cancelAll, joinAll, isAlive_join_cancel, List.filter_map, Function.comp_def]

theorem death?_join_cancel (reason : Text) (state : TaskState) :
    (state.cancel reason).join.death? = state.death? := by
  cases state <;> rfl

theorem final?_stop (now : Instant) (cause : StopCause) (goesOn : run.final? = none) :
    (run.stop now cause).final? = none := by
  obtain ⟨loops, monitor⟩ := (final?_eq_none_iff run).mp goesOn
  refine (final?_eq_none_iff _).mpr ⟨?_, ?_⟩
  · intro task member
    simp only [stop, close, joinAll, cancelAll, List.map_map, List.mem_map] at member
    obtain ⟨before, listed, rfl⟩ := member
    simpa [IsLost, death?_join_cancel] using loops before listed
  · simpa [IsLost, stop, close, joinAll, cancelAll, death?_join_cancel] using monitor

/-- Nothing happens to a run without tasks that work. -/
theorem passes_still {observed : Observed} {next : LiveRun EventType Own}
    (loops : ∀ task ∈ run.loops, ¬task.state.isWorking = true)
    (monitor : ¬run.monitor.state.isWorking = true) (passes : Passes now run observed next) :
    observed = {} ∧ next.loops = run.loops ∧ next.monitor = run.monitor := by
  obtain ⟨unperformed, same⟩ := idle_turns passes.turns fun task member turn =>
    loops task member turn.1
  have unread : observed.read = none := by
    rw [Option.eq_none_iff_forall_ne_some]
    intro read found
    exact monitor (passes.polled.mp ⟨read, found⟩).1
  refine ⟨?_, same, ?_⟩
  · obtain ⟨operations, read⟩ := observed
    simp only at unperformed unread
    rw [unperformed, unread]
  · rw [passes.monitor, unread]
    rfl

/-- Without tasks that work no instant performs or reads anything. -/
theorem still_passesAll {instants : List (Instant × Observed)} {later : LiveRun EventType Own}
    (passes : PassesAll run instants later)
    (loops : ∀ task ∈ run.loops, ¬task.state.isWorking = true)
    (monitor : ¬run.monitor.state.isWorking = true) : ∀ instant ∈ instants, instant.2 = {} := by
  induction passes with
  | nil => simp
  | cons passes _ ih =>
      obtain ⟨nothing, sameLoops, sameMonitor⟩ := passes_still loops monitor passes
      exact List.forall_mem_cons.mpr
        ⟨nothing, ih (by rwa [sameLoops]) (by rwa [sameMonitor])⟩

/-- A run without tasks that work goes through any instants. -/
theorem passesAll_foldl (times : List Instant) (run : LiveRun EventType Own)
    (ordered : InOrder run.actions) (goesOn : run.final? = none)
    (loops : ∀ task ∈ run.loops, ¬task.state.isWorking = true)
    (monitor : ¬run.monitor.state.isWorking = true) :
    PassesAll run (times.map fun now => (now, {}))
      (times.foldl (fun run now => run.advance now) run) := by
  induction times generalizing run with
  | nil => exact .nil run
  | cons now times ih =>
      obtain ⟨observed, passes, _⟩ := exists_passes now run ordered goesOn
      obtain ⟨rfl, sameLoops, sameMonitor⟩ := passes_still loops monitor passes
      refine .cons passes (ih _ ?_ ?_ (by rwa [sameLoops]) (by rwa [sameMonitor]))
      · rw [passes.actions]
        exact ordered.sublist (List.dropWhile_sublist _)
      · rw [final?_eq_none_iff, sameLoops, sameMonitor]
        exact (final?_eq_none_iff run).mp goesOn

theorem not_isWorking_join_cancel (reason : Text) (state : TaskState) :
    ¬(state.cancel reason).join.isWorking = true := by
  cases state <;> exact Bool.false_ne_true

/-- A run that is stopped is at rest. -/
theorem isAtRest_stop (now : Instant) (cause : StopCause) (run : LiveRun EventType Own)
    (ordered : InOrder run.actions) (goesOn : run.final? = none) :
    (run.stop now cause).IsAtRest := by
  have loops : ∀ task ∈ (run.stop now cause).loops, ¬task.state.isWorking = true := by
    intro task member
    simp only [stop, close, joinAll, cancelAll, List.map_map, List.mem_map] at member
    obtain ⟨before, _, rfl⟩ := member
    exact not_isWorking_join_cancel cause.reason before.state
  have monitor : ¬(run.stop now cause).monitor.state.isWorking = true :=
    not_isWorking_join_cancel cause.reason run.monitor.state
  exact {
    alive := alive_joinAll now cause.reason { run with log := run.log ++ cause.entries now }
    closed := rfl
    still := fun _ _ passes => still_passesAll passes loops monitor
    lasts := fun times =>
      passesAll_foldl times _ ordered (final?_stop now cause goesOn) loops monitor }

theorem madeBy_stop (cause : StopCause) (made : MadeBy now run.log) :
    MadeBy now (run.stop now cause).log := by
  have told : MadeBy now (cause.entries now) := by
    intro entry member
    cases cause with
    | shutdown => exact absurd member List.not_mem_nil
    | schemaChanged | operation =>
        rw [List.mem_singleton.mp member]
        exact le_refl now
    | death deaths =>
        obtain ⟨death, _, rfl⟩ := List.mem_map.mp member
        exact le_refl now
  have joined : MadeBy now
      (({ run with log := run.log ++ cause.entries now }.cancelAll cause.reason).joinEntries now) := by
    refine MadeBy.append ?_ ?_
    · intro entry member
      obtain ⟨task, _, given⟩ := List.mem_filterMap.mp member
      obtain ⟨reason, _, rfl⟩ := Option.map_eq_some_iff.mp given
      exact le_refl now
    · intro entry member
      obtain ⟨reason, _, rfl⟩ := Option.map_eq_some_iff.mp (Option.mem_toList.mp member)
      exact le_refl now
  refine ((made.append told).append joined).append ?_
  intro entry member
  rw [List.mem_singleton.mp member]
  exact le_refl now

end Rest

end LiveRun

end EventForge
