import EventForge.Load.Supervisor
import EventForge.Proofs.Number.Reading
import EventForge.Proofs.Number.Rounding
import Mathlib.Algebra.Order.Field.Rat
import Mathlib.Tactic.GCongr
import Mathlib.Tactic.Linarith

/-!
# Timers

What a run waits for lies ahead of it: the deadlines of its loops, the next poll and the actions from
outside.  A timer that has passed moves on by its interval, so that only so many of them can pass
before a limit.
-/

namespace EventForge

/-- The span of a number of seconds greater than zero takes time. -/
theorem Span.seconds_ofFloat_pos (number : Float) (positive : 0.0 < number) :
    0 < (Span.ofFloat number).seconds := by
  rcases Binary64.ofFloat_of_pos number positive with endless | ⟨significand, exponent, some, finite⟩
  · simp only [Span.ofFloat, endless]
    decide +kernel
  · have scaled := Binary64.scaleBinary_eq significand 1 exponent
    simp only [Span.ofFloat, finite, Binary64.ratio, Bool.false_eq_true, if_false]
    rw [Rat.mkRat_eq_div, Int.cast_natCast, scaled]
    positivity

/-- Whether actions are in the order of their times. -/
def InOrder (actions : List ScheduledAction) : Prop :=
  actions.Pairwise fun first second => first.time ≤ second.time

namespace LiveRun

/-!
## The earlier one of two instants
-/

theorem earlier_le_left (first second : Instant) : first.earlier second ≤ first := by
  unfold Instant.earlier
  split
  · exact le_refl _
  · rename_i later
    exact le_of_lt (not_le.mp later)

theorem earlier_le_right (first second : Instant) : first.earlier second ≤ second := by
  unfold Instant.earlier
  split
  · assumption
  · exact le_refl _

theorem earlier_cases (first second : Instant) :
    first.earlier second = first ∨ first.earlier second = second := by
  unfold Instant.earlier
  split
  · exact .inl rfl
  · exact .inr rfl

theorem lt_earlier {past first second : Instant} (left : past < first) (right : past < second) :
    past < first.earlier second := by
  rcases earlier_cases first second with same | same
  · rwa [same]
  · rwa [same]

theorem foldl_earlier_le (start : Instant) (times : List Instant) :
    times.foldl Instant.earlier start ≤ start ∧
      ∀ time ∈ times, times.foldl Instant.earlier start ≤ time := by
  induction times generalizing start with
  | nil => simp
  | cons time times ih =>
      obtain ⟨low, each⟩ := ih (start.earlier time)
      refine ⟨le_trans low (earlier_le_left start time), ?_⟩
      intro other member
      rcases List.mem_cons.mp member with rfl | member
      · exact le_trans low (earlier_le_right start other)
      · exact each other member

theorem foldl_earlier_mem (start : Instant) (times : List Instant) :
    times.foldl Instant.earlier start ∈ start :: times := by
  induction times generalizing start with
  | nil => simp
  | cons time times ih =>
      rcases List.mem_cons.mp (ih (start.earlier time)) with found | found
      · rw [List.foldl_cons, found]
        rcases earlier_cases start time with same | same <;> simp [same]
      · rw [List.foldl_cons]
        simp [found]

/-!
## Actions that are due
-/

theorem drop_takeWhile (actions : List ScheduledAction) (isDue : ScheduledAction → Bool) :
    actions.drop (actions.takeWhile isDue).length = actions.dropWhile isDue := by
  induction actions with
  | nil => rfl
  | cons scheduled actions ih =>
      cases due : isDue scheduled <;> simp [due, ih]

theorem mem_dropWhile_iff (now : Instant) (actions : List ScheduledAction)
    (ordered : InOrder actions) (scheduled : ScheduledAction) :
    scheduled ∈ actions.dropWhile (fun scheduled => scheduled.time ≤ now) ↔
      scheduled ∈ actions ∧ now < scheduled.time := by
  induction actions with
  | nil => simp
  | cons head actions ih =>
      obtain ⟨first, later⟩ := List.pairwise_cons.mp ordered
      rw [List.dropWhile_cons]
      split
      · rename_i due
        have due : head.time ≤ now := by simpa using due
        rw [ih later, List.mem_cons]
        constructor
        · rintro ⟨member, after⟩
          exact ⟨.inr member, after⟩
        · rintro ⟨rfl | member, after⟩
          · exact absurd due (not_le.mpr after)
          · exact ⟨member, after⟩
      · rename_i early
        have early : now < head.time := by simpa using early
        constructor
        · intro member
          refine ⟨member, ?_⟩
          rcases List.mem_cons.mp member with rfl | behind
          · exact early
          · exact lt_of_lt_of_le early (first scheduled behind)
        · exact And.left

/-- The actions that are due stand in front of the others. -/
theorem filter_eq_takeWhile (now : Instant) (actions : List ScheduledAction)
    (ordered : InOrder actions) :
    actions.filter (fun scheduled => scheduled.time ≤ now) =
      actions.takeWhile (fun scheduled => scheduled.time ≤ now) := by
  induction actions with
  | nil => rfl
  | cons head actions ih =>
      obtain ⟨first, later⟩ := List.pairwise_cons.mp ordered
      by_cases due : head.time ≤ now
      · simp [due, ih later]
      · have none : ∀ scheduled ∈ actions, ¬scheduled.time ≤ now := fun scheduled behind early =>
          due (le_trans (first scheduled behind) early)
        simpa [due] using none

/-- Entries of a log that are not made after an instant. -/
def MadeBy (now : Instant) (log : List LogEntry) : Prop := ∀ entry ∈ log, entry.time ≤ now

theorem MadeBy.append {now : Instant} {first second : List LogEntry} (left : MadeBy now first)
    (right : MadeBy now second) : MadeBy now (first ++ second) :=
  fun entry member => (List.mem_append.mp member).elim (left entry) (right entry)

theorem MadeBy.later {past now : Instant} {log : List LogEntry} (made : MadeBy past log)
    (later : past ≤ now) : MadeBy now log := fun entry member => le_trans (made entry member) later

/-!
## Deadlines that move on
-/

/-- How often a deadline that moves on by an interval is reached before the limit. -/
def remaining (limit deadline interval : Rat) : Nat :=
  if deadline < limit then ((limit - deadline) / interval).floor.toNat + 1 else 0

theorem remaining_mono (limit : Rat) {deadline later interval : Rat} (positive : 0 < interval)
    (after : deadline ≤ later) :
    remaining limit later interval ≤ remaining limit deadline interval := by
  unfold remaining
  split
  · rename_i early
    rw [if_pos (lt_of_le_of_lt after early)]
    have shorter : (limit - later) / interval ≤ (limit - deadline) / interval := by gcongr
    have floors := Rat.floor_monotone shorter
    omega
  · omega

theorem remaining_moved {limit deadline later interval : Rat} (positive : 0 < interval)
    (early : deadline < limit) (moved : deadline + interval ≤ later) :
    remaining limit later interval + 1 ≤ remaining limit deadline interval := by
  unfold remaining
  rw [if_pos early]
  split
  · have shorter : (limit - later) / interval ≤ (limit - deadline) / interval - 1 := by
      rw [le_sub_iff_add_le, div_add_one (ne_of_gt positive), div_le_div_iff_of_pos_right positive]
      linarith
    have floors := Rat.floor_monotone shorter
    rw [Rat.floor_sub_one] at floors
    have inside : (0 : Rat) ≤ (limit - later) / interval :=
      div_nonneg (by linarith) (le_of_lt positive)
    have positiveFloor : 0 ≤ ((limit - later) / interval).floor :=
      Rat.le_floor_iff.mpr (by simpa using inside)
    omega
  · omega

theorem remaining_start (limit : Rat) {deadline interval : Rat} (positive : 0 < interval)
    (begun : 0 ≤ deadline) :
    remaining limit deadline interval ≤ (limit / interval).floor.toNat + 1 := by
  unfold remaining
  split
  · have shorter : (limit - deadline) / interval ≤ limit / interval := by
      gcongr
      linarith
    have floors := Rat.floor_monotone shorter
    omega
  · omega

def IsPositive (cadence : Cadence) : Prop := 0 < cadence.interval ∧ 0 < cadence.statsInterval

theorem advance_moves (deadline now : Rat) {interval : Rat} (positive : 0 < interval) :
    deadline + interval ≤ Cadence.advance deadline interval now ∧
      now < Cadence.advance deadline interval now := by
  unfold Cadence.advance
  split
  · constructor <;> linarith
  · rename_i soon
    exact ⟨le_refl _, not_le.mp soon⟩

theorem nextOperation_wake {cadence : Cadence} (positive : IsPositive cadence) (now : Instant) :
    now < (cadence.wake now).nextOperation ∧
      cadence.nextOperation ≤ (cadence.wake now).nextOperation ∧
      (cadence.nextOperation ≤ now →
        cadence.nextOperation + cadence.interval ≤ (cadence.wake now).nextOperation) := by
  obtain ⟨moved, after⟩ := advance_moves cadence.nextOperation now positive.1
  simp only [Cadence.wake, Cadence.operationDue, decide_eq_true_eq]
  split
  · have forward := positive.1
    exact ⟨after, by linarith, fun _ => moved⟩
  · rename_i early
    exact ⟨not_le.mp early, le_refl _, fun due => absurd due early⟩

theorem nextReport_wake {cadence : Cadence} (positive : IsPositive cadence) (now : Instant) :
    now < (cadence.wake now).nextReport ∧ cadence.nextReport ≤ (cadence.wake now).nextReport ∧
      (cadence.nextReport ≤ now →
        cadence.nextReport + cadence.statsInterval ≤ (cadence.wake now).nextReport) := by
  obtain ⟨moved, after⟩ := advance_moves cadence.nextReport now positive.2
  simp only [Cadence.wake, Cadence.reportDue, decide_eq_true_eq]
  split
  · have forward := positive.2
    exact ⟨after, by linarith, fun _ => moved⟩
  · rename_i early
    exact ⟨not_le.mp early, le_refl _, fun due => absurd due early⟩

/-- The cadence of a loop behind an instant. -/
def cadenceAfter (now : Instant) (cadence : Cadence) : Cadence :=
  if cadence.deadline ≤ now then cadence.wake now else cadence

theorem isPositive_cadenceAfter {cadence : Cadence} (positive : IsPositive cadence)
    (now : Instant) : IsPositive (cadenceAfter now cadence) := by
  unfold cadenceAfter
  split
  · exact positive
  · exact positive

theorem lt_deadline_cadenceAfter {cadence : Cadence} (positive : IsPositive cadence)
    (now : Instant) : now < (cadenceAfter now cadence).deadline := by
  unfold cadenceAfter
  split
  · exact lt_earlier (nextOperation_wake positive now).1 (nextReport_wake positive now).1
  · rename_i early
    exact not_le.mp early

/-- How often a loop wakes at most before the limit. -/
def cadenceBudget (limit : Instant) (cadence : Cadence) : Nat :=
  remaining limit cadence.nextOperation cadence.interval +
    remaining limit cadence.nextReport cadence.statsInterval

theorem cadenceBudget_after {cadence : Cadence} (positive : IsPositive cadence)
    (limit now : Instant) :
    cadenceBudget limit (cadenceAfter now cadence) ≤ cadenceBudget limit cadence ∧
      (now < limit → cadence.deadline ≤ now →
        cadenceBudget limit (cadenceAfter now cadence) + 1 ≤ cadenceBudget limit cadence) := by
  unfold cadenceAfter
  split
  · obtain ⟨_, operationLater, operationMoved⟩ := nextOperation_wake positive now
    obtain ⟨_, reportLater, reportMoved⟩ := nextReport_wake positive now
    have operations := remaining_mono limit positive.1 operationLater
    have reports := remaining_mono limit positive.2 reportLater
    refine ⟨Nat.add_le_add operations reports, ?_⟩
    intro before due
    rcases earlier_cases cadence.nextOperation cadence.nextReport with same | same
    · have due : cadence.nextOperation ≤ now := by rwa [Cadence.deadline, same] at due
      have moved := remaining_moved positive.1 (lt_of_le_of_lt due before) (operationMoved due)
      have fewer := Nat.add_le_add moved reports
      unfold cadenceBudget
      simp only [Cadence.wake] at fewer ⊢
      omega
    · have due : cadence.nextReport ≤ now := by rwa [Cadence.deadline, same] at due
      have moved := remaining_moved positive.2 (lt_of_le_of_lt due before) (reportMoved due)
      have fewer := Nat.add_le_add operations moved
      unfold cadenceBudget
      simp only [Cadence.wake] at fewer ⊢
      omega
  · rename_i early
    exact ⟨le_refl _, fun _ due => absurd due early⟩

def cadencesBudget (limit : Instant) (cadences : List Cadence) : Nat :=
  (cadences.map (cadenceBudget limit)).sum

theorem cadencesBudget_after (cadences : List Cadence)
    (positive : ∀ cadence ∈ cadences, IsPositive cadence) (limit now : Instant) :
    cadencesBudget limit (cadences.map (cadenceAfter now)) ≤ cadencesBudget limit cadences ∧
      (now < limit → (∃ cadence ∈ cadences, cadence.deadline ≤ now) →
        cadencesBudget limit (cadences.map (cadenceAfter now)) + 1 ≤
          cadencesBudget limit cadences) := by
  induction cadences with
  | nil => simp [cadencesBudget]
  | cons cadence cadences ih =>
      obtain ⟨own, ownFewer⟩ := cadenceBudget_after (positive cadence (by simp)) limit now
      obtain ⟨others, othersFewer⟩ := ih fun other member => positive other (by simp [member])
      simp only [List.map_cons, cadencesBudget, List.sum_cons] at others othersFewer ⊢
      refine ⟨Nat.add_le_add own others, ?_⟩
      rintro before ⟨found, member, due⟩
      rcases List.mem_cons.mp member with rfl | member
      · have fewer := ownFewer before due
        omega
      · have fewer := othersFewer before ⟨found, member, due⟩
        omega

end LiveRun

end EventForge
