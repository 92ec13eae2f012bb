import EventForge.Proofs.Load.Counters
import EventForge.Proofs.Load.Timers
import Mathlib.Tactic.Ring

/-!
# The cadence of a loop

A loop has two deadlines and one sleep.  Whenever it wakes, even if that is late, it begins at most
one operation and makes at most one report, and both deadlines lie ahead of it afterwards.  What was
missed is dropped, so that neither operations nor reports come faster than their intervals.  A loop
that wakes in time misses nothing: its operations stay on the grid of its interval for ever.
-/

namespace EventForge

open LiveRun

namespace Cadence

/-!
## One deadline
-/

/-- The instants among some wake-ups at which a deadline has been reached, if it moves on by an
interval each time. -/
def reached (interval : Rat) : Instant → List Instant → List Instant
  | _, [] => []
  | deadline, now :: later =>
      if deadline ≤ now then now :: reached interval (advance deadline interval now) later
      else reached interval deadline later

/-- Whether no wake-up comes as late as the deadline behind the pending one. -/
def MissesNone (interval : Rat) : Instant → List Instant → Prop
  | _, [] => True
  | deadline, now :: later =>
      now < deadline + interval ∧
        MissesNone interval (if deadline ≤ now then deadline + interval else deadline) later

variable {interval : Rat} (positive : 0 < interval)
include positive

theorem le_of_reached (deadline : Instant) (times : List Instant) (number : Nat) (time : Instant)
    (found : (reached interval deadline times)[number]? = some time) :
    deadline + number * interval ≤ time := by
  induction times generalizing deadline number with
  | nil => simp [reached] at found
  | cons now later ih =>
      unfold reached at found
      split at found
      · rename_i due
        cases number with
        | zero =>
            obtain rfl : now = time := by simpa using found
            simpa using due
        | succ number =>
            have moved := (advance_moves deadline now positive).1
            have behind := ih _ number (by simpa using found)
            push_cast
            linarith
      · exact ih deadline number found

/-- Without misses a deadline is reached by the first wake-up behind each point of its grid. -/
theorem getElem?_reached (deadline : Instant) (times : List Instant)
    (missesNone : MissesNone interval deadline times) (number : Nat) :
    (reached interval deadline times)[number]? =
      times.find? fun time => deadline + number * interval ≤ time := by
  induction times generalizing deadline number with
  | nil => rfl
  | cons now later ih =>
      obtain ⟨soon, others⟩ := missesNone
      unfold reached
      split at others
      · rename_i due
        have next : advance deadline interval now = deadline + interval :=
          if_neg (not_le.mpr soon)
        rw [if_pos due, next]
        cases number with
        | zero => simp [due]
        | succ number =>
            have early : ¬deadline + ((number + 1 : Nat) : Rat) * interval ≤ now := by
              have forward : 0 ≤ (number : Rat) * interval := by positivity
              push_cast
              linarith
            have shifted : ∀ time : Instant, deadline + interval + number * interval ≤ time ↔
                deadline + ((number + 1 : Nat) : Rat) * interval ≤ time := by
              intro time
              push_cast
              constructor <;> intro behind <;> linarith
            simp only [List.getElem?_cons_succ, ih _ others, shifted, List.find?_cons, early,
              decide_false]
      · rename_i pending
        have early : ¬deadline + (number : Rat) * interval ≤ now := by
          have forward : 0 ≤ (number : Rat) * interval := by positivity
          linarith
        simp only [if_neg pending, ih _ others, List.find?_cons, early, decide_false]

end Cadence

/-!
## The turns of a loop
-/

namespace LoopTask

/-- What a loop did at one of its wake-ups. -/
structure Turn where
  time : Instant
  /-- How many operations it began. -/
  operations : Nat
  /-- How many reports it made. -/
  reports : Nat
  /-- The deadlines that it set; a loop that dies sets none. -/
  next? : Option Cadence
deriving DecidableEq

variable {EventType World : Type}

/-- Performs operations and counts how many were begun. -/
def counted (tick : Ticker EventType World) : Ticker EventType (Nat × World) :=
  fun clock world loop =>
    let (fault, loop, after) := tick clock world.2 loop
    (fault, loop, world.1 + 1, after)

/-- The turns of a loop at some wake-ups; one that died takes no more. -/
def turns (tick : Ticker EventType World) (clock : Clock) :
    LoopTask EventType → World → List (WakeUp World) → List Turn
  | _, _, [] => []
  | task, world, wakeUp :: later =>
      let woken := task.wake (counted tick) clock wakeUp.time (0, wakeUp.meanwhile world)
      let turn (next? : Option Cadence) : Turn :=
        { time := wakeUp.time, operations := woken.world.1
          reports := woken.report.toList.length, next? }
      match woken.fault with
      | some (.unexpected _) => [turn none]
      | some (.reported _) | none =>
          turn (some woken.task.cadence) :: turns tick clock woken.task woken.world.2 later

/-- The instants at which operations were begun. -/
def operationTimes (turns : List Turn) : List Instant :=
  turns.flatMap fun turn => List.replicate turn.operations turn.time

/-- The instants at which reports were made. -/
def reportTimes (turns : List Turn) : List Instant :=
  turns.flatMap fun turn => List.replicate turn.reports turn.time

/-- Whether every turn comes less than an interval after the earlier one of the two deadlines that
were pending. -/
def ArePrompt (interval : Rat) : Cadence → List Turn → Prop
  | _, [] => True
  | cadence, turn :: later =>
      turn.time < cadence.deadline + interval ∧
        match turn.next? with
        | some next => ArePrompt interval next later
        | none => True

variable (tick : Ticker EventType World) (clock : Clock)

/-- What a wake-up does: an operation if one is due, and then, unless that is the end of the loop, a
report if one is due. -/
theorem wake_counted (now : Instant) (world : World) (task : LoopTask EventType) :
    let woken := task.wake (counted tick) clock now (0, world)
    woken.world.1 = (if task.cadence.operationDue now then 1 else 0) ∧
      ((∃ fault, woken.fault = some (.unexpected fault) ∧ woken.report = none) ∨
        (∀ fault, woken.fault ≠ some (.unexpected fault)) ∧
          woken.task.cadence = task.cadence.wake now ∧
          woken.report.toList.length = if task.cadence.reportDue now then 1 else 0) := by
  have begun : (task.operate (counted tick) clock now (0, world)).2.2.1 =
      if task.cadence.operationDue now then 1 else 0 := by
    unfold operate
    split <;> rfl
  simp only [wake]
  split
  · rename_i fault loop after operated
    rw [operated] at begun
    exact ⟨begun, .inl ⟨fault, rfl, rfl⟩⟩
  · rename_i fault loop after expected operated
    rw [operated] at begun
    split
    · exact ⟨begun, .inr ⟨expected, rfl, rfl⟩⟩
    · exact ⟨begun, .inr ⟨expected, rfl, rfl⟩⟩

/-- The first of some turns: either the loop dies of it, or it goes on with the cadence of its
wake-up. -/
theorem turns_cons (task : LoopTask EventType) (world : World) (wakeUp : WakeUp World)
    (later : List (WakeUp World)) :
    ∃ turn rest, turns tick clock task world (wakeUp :: later) = turn :: rest ∧
      turn.time = wakeUp.time ∧
      turn.operations = (if task.cadence.operationDue wakeUp.time then 1 else 0) ∧
      ((turn.next? = none ∧ turn.reports = 0 ∧ rest = []) ∨
        ∃ next after, turn.next? = some next.cadence ∧
          next.cadence = task.cadence.wake wakeUp.time ∧
          turn.reports = (if task.cadence.reportDue wakeUp.time then 1 else 0) ∧
          rest = turns tick clock next after later) := by
  obtain ⟨begun, ended⟩ :=
    wake_counted tick clock wakeUp.time (wakeUp.meanwhile world) task
  simp only [turns]
  rcases ended with ⟨fault, died, silent⟩ | ⟨expected, cadence, reports⟩
  · rw [died]
    exact ⟨_, _, rfl, rfl, begun, .inl ⟨rfl, by rw [silent]; rfl, rfl⟩⟩
  · split
    · rename_i fault died
      exact absurd died (expected fault)
    · exact ⟨_, _, rfl, rfl, begun, .inr ⟨_, _, rfl, cadence, reports, rfl⟩⟩
    · exact ⟨_, _, rfl, rfl, begun, .inr ⟨_, _, rfl, cadence, reports, rfl⟩⟩

/-- The operations of a loop are those for which its first deadline calls. -/
theorem operationTimes_turns (task : LoopTask EventType) (world : World)
    (wakeUps : List (WakeUp World)) :
    let turns := turns tick clock task world wakeUps
    operationTimes turns =
      Cadence.reached task.cadence.interval task.cadence.nextOperation (turns.map Turn.time) := by
  induction wakeUps generalizing task world with
  | nil => rfl
  | cons wakeUp later ih =>
      obtain ⟨turn, rest, taken, time, begun, ended⟩ := turns_cons tick clock task world wakeUp later
      have others : operationTimes rest = Cadence.reached task.cadence.interval
          (task.cadence.wake wakeUp.time).nextOperation (rest.map Turn.time) := by
        rcases ended with ⟨_, _, rfl⟩ | ⟨next, after, _, cadence, _, rfl⟩
        · rfl
        · have same := ih next after
          rwa [cadence] at same
      simp only [taken, operationTimes, List.flatMap_cons, List.map_cons, Cadence.reached, time]
      rw [operationTimes] at others
      rw [others, begun]
      simp only [Cadence.wake, Cadence.operationDue, decide_eq_true_eq]
      split <;> rfl

/-- The reports of a loop are those for which its second deadline calls, but for one that death
prevents. -/
theorem reportTimes_turns (task : LoopTask EventType) (world : World)
    (wakeUps : List (WakeUp World)) :
    let turns := turns tick clock task world wakeUps
    reportTimes turns <+:
      Cadence.reached task.cadence.statsInterval task.cadence.nextReport
        (turns.map Turn.time) := by
  induction wakeUps generalizing task world with
  | nil => exact List.prefix_refl _
  | cons wakeUp later ih =>
      obtain ⟨turn, rest, taken, time, _, ended⟩ := turns_cons tick clock task world wakeUp later
      simp only [taken, reportTimes, List.flatMap_cons, List.map_cons, Cadence.reached, time]
      rcases ended with ⟨_, silent, rfl⟩ | ⟨next, after, _, cadence, reports, rfl⟩
      · simp [silent]
      · have others := ih next after
        simp only [reportTimes, cadence, Cadence.wake, Cadence.reportDue,
          decide_eq_true_eq] at others
        rw [reports]
        simp only [Cadence.reportDue, decide_eq_true_eq]
        split
        · rename_i due
          rw [if_pos due] at others
          exact List.prefix_cons_inj _ |>.mpr others
        · rename_i early
          rw [if_neg early] at others
          exact others

/-- A loop whose turns are prompt misses none of its operations. -/
theorem missesNone_of_arePrompt {interval : Rat} (task : LoopTask EventType) (world : World)
    (wakeUps : List (WakeUp World)) (every : task.cadence.interval = interval)
    (prompt : ArePrompt interval task.cadence (turns tick clock task world wakeUps)) :
    Cadence.MissesNone interval task.cadence.nextOperation
      ((turns tick clock task world wakeUps).map Turn.time) := by
  induction wakeUps generalizing task world with
  | nil => trivial
  | cons wakeUp later ih =>
      obtain ⟨turn, rest, taken, time, _, ended⟩ := turns_cons tick clock task world wakeUp later
      rw [taken] at prompt ⊢
      obtain ⟨soon, others⟩ := prompt
      rw [time] at soon
      have inTime : wakeUp.time < task.cadence.nextOperation + interval := by
        have earlier := earlier_le_left task.cadence.nextOperation task.cadence.nextReport
        rw [Cadence.deadline] at soon
        linarith
      simp only [List.map_cons, Cadence.MissesNone, time]
      refine ⟨inTime, ?_⟩
      rcases ended with ⟨_, _, rfl⟩ | ⟨next, after, set, cadence, _, rfl⟩
      · trivial
      · rw [set] at others
        have behind := ih next after (by rw [cadence]; exact every) others
        have onGrid : next.cadence.nextOperation =
            if task.cadence.nextOperation ≤ wakeUp.time then
              task.cadence.nextOperation + interval
            else task.cadence.nextOperation := by
          simp only [cadence, Cadence.wake, Cadence.operationDue, decide_eq_true_eq, every,
            Cadence.advance, if_neg (not_le.mpr inTime)]
        rwa [onGrid] at behind

/-- A turn begins at most one operation and makes at most one report, and the deadlines that it sets
lie ahead of it. -/
theorem turn_of_mem_turns (task : LoopTask EventType) (positive : IsPositive task.cadence)
    (world : World) (wakeUps : List (WakeUp World)) :
    ∀ turn ∈ turns tick clock task world wakeUps, turn.operations ≤ 1 ∧ turn.reports ≤ 1 ∧
      ∀ next, turn.next? = some next →
        turn.time < next.nextOperation ∧ turn.time < next.nextReport := by
  induction wakeUps generalizing task world with
  | nil => simp [turns]
  | cons wakeUp later ih =>
      obtain ⟨turn, rest, taken, time, begun, ended⟩ := turns_cons tick clock task world wakeUp later
      have atMostOne (due : Bool) : (if due then 1 else 0) ≤ 1 := by cases due <;> decide
      rw [taken, List.forall_mem_cons]
      rcases ended with ⟨none, silent, rfl⟩ | ⟨next, after, set, cadence, reports, rfl⟩
      · refine ⟨⟨by rw [begun]; exact atMostOne _, by rw [silent]; exact Nat.zero_le _, ?_⟩, by simp⟩
        intro next set
        rw [none] at set
        cases set
      · refine ⟨⟨by rw [begun]; exact atMostOne _, by rw [reports]; exact atMostOne _, ?_⟩,
          ih next (by rw [cadence]; exact positive) after⟩
        intro found same
        rw [set] at same
        obtain rfl := Option.some.inj same
        rw [time, cadence]
        exact ⟨(nextOperation_wake positive _).1, (nextReport_wake positive _).1⟩

/-- A loop that lives takes a turn whenever it wakes. -/
theorem times_turns (task : LoopTask EventType) (world : World) (wakeUps : List (WakeUp World)) :
    let turns := turns tick clock task world wakeUps
    turns.map Turn.time <+: wakeUps.map WakeUp.time ∧
      ((∀ turn ∈ turns, turn.next?.isSome) →
        turns.map Turn.time = wakeUps.map WakeUp.time) := by
  induction wakeUps generalizing task world with
  | nil => exact ⟨List.prefix_refl _, fun _ => rfl⟩
  | cons wakeUp later ih =>
      obtain ⟨turn, rest, taken, time, _, ended⟩ := turns_cons tick clock task world wakeUp later
      simp only [taken, List.map_cons, time, List.forall_mem_cons, List.prefix_cons_inj,
        List.cons.injEq, true_and]
      rcases ended with ⟨none, _, rfl⟩ | ⟨next, after, _, _, _, rfl⟩
      · refine ⟨List.nil_prefix, fun lives => ?_⟩
        rw [none] at lives
        cases lives.1
      · exact ⟨(ih next after).1, fun lives => (ih next after).2 lives.2⟩

/-- However late a loop wakes, it does at most one operation and one report at a time, sets its
deadlines ahead, and is never faster than its intervals.  If it always wakes in time, each operation
is begun at the first wake-up behind its point of the grid. -/
theorem cadence_is_kept (loop : TypedLoop EventType) {interval statsInterval : Span}
    (positive : 0 < interval.seconds) (statsPositive : 0 < statsInterval.seconds)
    (start : Instant) (world : World) (wakeUps : List (WakeUp World)) :
    let task := LoopTask.start start interval statsInterval loop
    let turns := turns tick clock task world wakeUps
    (turns.map Turn.time <+: wakeUps.map WakeUp.time ∧
      ((∀ turn ∈ turns, turn.next?.isSome) →
        turns.map Turn.time = wakeUps.map WakeUp.time)) ∧
      (∀ turn ∈ turns, turn.operations ≤ 1 ∧ turn.reports ≤ 1 ∧
        ∀ next, turn.next? = some next →
          turn.time < next.nextOperation ∧ turn.time < next.nextReport) ∧
      (∀ (number : Nat) time, (operationTimes turns)[number]? = some time →
        start + (number + 1) * interval.seconds ≤ time) ∧
      (∀ (number : Nat) time, (reportTimes turns)[number]? = some time →
        start + (number + 1) * statsInterval.seconds ≤ time) ∧
      (ArePrompt interval.seconds task.cadence turns → ∀ number : Nat,
        (operationTimes turns)[number]? =
          (turns.map Turn.time).find? fun time =>
            start + (number + 1) * interval.seconds ≤ time) := by
  intro task turns
  have operations := operationTimes_turns tick clock task world wakeUps
  have reports := reportTimes_turns tick clock task world wakeUps
  have point (number : Nat) (seconds : Rat) :
      start + (number + 1) * seconds = start + seconds + number * seconds := by ring
  refine ⟨times_turns tick clock task world wakeUps,
    turn_of_mem_turns tick clock task ⟨positive, statsPositive⟩ world wakeUps, ?_, ?_, ?_⟩
  · intro number time found
    rw [point]
    rw [operations] at found
    exact Cadence.le_of_reached positive _ _ number time found
  · intro number time found
    rw [point]
    have kept : (Cadence.reached statsInterval.seconds task.cadence.nextReport
        (turns.map Turn.time))[number]? = some time := by
      obtain ⟨prevented, whole⟩ := reports
      change _ ++ _ = Cadence.reached statsInterval.seconds task.cadence.nextReport _ at whole
      obtain ⟨short, _⟩ := List.getElem?_eq_some_iff.mp found
      rw [← whole, List.getElem?_append_left short]
      exact found
    exact Cadence.le_of_reached statsPositive _ _ number time kept
  · intro prompt number
    have inTime := missesNone_of_arePrompt tick clock task world wakeUps rfl prompt
    simp only [point]
    rw [operations]
    exact Cadence.getElem?_reached positive _ _ inTime number

/-- A loop that is to begin an operation every second. -/
def secondly : LoopTask Unit :=
  LoopTask.start 0 { shown := "1.0", seconds := 1 } { shown := "10.0", seconds := 10 }
    { kind := .writer, source := RandomSource.ofSeed 0, types := [("login", ())] }

/-- Its turns at three wake-ups, the second of which is late, if every operation fails. -/
def failingTurns : List Turn :=
  turns (fun _ world loop => (some (.reported (Fault.ofValue "refused")), loop, world))
    { nanoseconds := 0 } secondly ()
    [{ time := 1, meanwhile := id }, { time := 9 / 4, meanwhile := id },
      { time := 3, meanwhile := id }]

theorem failingTurns_keep_cadence :
    (0 : Rat) < 1 ∧ (0 : Rat) < 10 ∧ ArePrompt 1 secondly.cadence failingTurns ∧
      (operationTimes failingTurns)[2]? = some 3 := by
  have taken : failingTurns =
      [{ time := 1, operations := 1, reports := 0, next? := some ⟨1, 10, 2, 10⟩ },
        { time := 9 / 4, operations := 1, reports := 0, next? := some ⟨1, 10, 3, 10⟩ },
        { time := 3, operations := 1, reports := 0, next? := some ⟨1, 10, 4, 10⟩ }] := by
    decide +kernel
  have prompt : ArePrompt 1 secondly.cadence failingTurns := by
    rw [taken]
    exact ⟨by decide +kernel, by decide +kernel, by decide +kernel, trivial⟩
  have positive : 0 < ({ shown := "1.0", seconds := 1 } : Span).seconds := by decide
  have statsPositive : 0 < ({ shown := "10.0", seconds := 10 } : Span).seconds := by decide
  obtain ⟨_, _, _, _, onGrid⟩ := cadence_is_kept
    (fun _ world loop => (some (.reported (Fault.ofValue "refused")), loop, world))
    { nanoseconds := 0 } secondly.loop positive statsPositive 0 ()
    [{ time := 1, meanwhile := id }, { time := 9 / 4, meanwhile := id },
      { time := 3, meanwhile := id }]
  refine ⟨by decide, by decide, prompt, (onGrid prompt 2).trans ?_⟩
  change (failingTurns.map Turn.time).find? _ = some 3
  rw [taken]
  decide +kernel

end LoopTask

end EventForge
