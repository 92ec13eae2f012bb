import Mathlib.Algebra.Order.Field.Rat
import Mathlib.Tactic.Linarith
import Mathlib.Tactic.Ring
import EventForge.Store.Retry

/-!
# Connecting with retries

Attempts follow one another until one of them opens the database or the policy allows no more.  The
delays between them add up to a sum that depends only on how many attempts have failed.
-/

namespace EventForge

namespace RetryPolicy

variable (policy : RetryPolicy)

/-- How long is slept in all after the first failures. -/
def slept (failures : Nat) : Rat :=
  failures * policy.initialDelay + policy.backoffStep * failures * (failures - 1) / 2

theorem pause_nonneg (attempt : Nat) : 0 ≤ policy.pause attempt := by
  unfold pause
  split
  · exact le_refl 0
  · rename_i positive
    exact le_of_lt (not_le.mp positive)

@[simp] theorem slept_zero : policy.slept 0 = 0 := by
  simp [slept]

section Waits

variable {policy} (initial : 0 ≤ policy.initialDelay) (step : 0 ≤ policy.backoffStep)

include initial step

/-- A delay that is never below zero is slept as it is. -/
theorem pause_eq_delay (attempt : Nat) : policy.pause attempt = policy.delay attempt := by
  have least : 0 ≤ policy.delay attempt := add_nonneg initial (mul_nonneg attempt.cast_nonneg step)
  unfold pause
  split
  · rename_i below
    exact le_antisymm least below
  · rfl

/-- Each failure adds the delay behind it. -/
theorem slept_succ (failures : Nat) :
    policy.slept (failures + 1) = policy.slept failures + policy.pause failures := by
  rw [pause_eq_delay initial step, slept, slept, delay]
  push_cast
  ring

end Waits

end RetryPolicy

namespace Connecting

variable {World Opened : Type}

/-!
## One attempt
-/

section Step

variable {policy : RetryPolicy} {path : Text} {total attempt : Nat} {now : Instant}
  {opening : Instant → World → Except Text Opened × World} {world left : World}

theorem attempts_of_ok {connection : Opened} (opened : opening now world = (.ok connection, left))
    (remaining : Nat) :
    attempts policy path total opening attempt now world (remaining + 1) =
      ({ time := now, outcome := .ok connection, log := [successEntry now path] }, left) := by
  rw [attempts, opened]

theorem attempts_of_last {reason : Text} (failed : opening now world = (.error reason, left)) :
    attempts policy path total opening attempt now world 1 =
      ({ time := now, outcome := .error (.exhausted path total reason)
         log := [failureEntry now attempt total reason] }, left) := by
  rw [attempts, failed]
  rfl

theorem attempts_of_error {reason : Text} (failed : opening now world = (.error reason, left))
    (remaining : Nat) :
    attempts policy path total opening attempt now world (remaining + 2) =
      let rest := attempts policy path total opening (attempt + 1) (now + policy.pause attempt) left
        (remaining + 1)
      ({ rest.1 with log := failureEntry now attempt total reason :: rest.1.log }, rest.2) := by
  rw [attempts, failed]
  rfl

end Step

/-!
## All attempts

The attempts find the states `worlds` and come to `outcomes`, each at the instant that the delays
before it bring about.
-/

/-- Why an attempt failed. -/
def reasonOf : Except Text Opened → Text
  | .ok _ => []
  | .error reason => reason

/-- Whether an attempt failed. -/
def IsFailure (outcome : Except Text Opened) : Prop := outcome = .error (reasonOf outcome)

/-- What is logged for failures from one attempt on. -/
def failureLog (policy : RetryPolicy) (now : Instant) (total : Nat)
    (outcomes : Nat → Except Text Opened) (first count : Nat) : List LogEntry :=
  (List.range' first count).map fun attempt =>
    failureEntry (now + policy.slept attempt) attempt total (reasonOf (outcomes attempt))

section Run

variable {policy : RetryPolicy} (initial : 0 ≤ policy.initialDelay) (step : 0 ≤ policy.backoffStep)
  (path : Text) (total : Nat) (now : Instant)
  {opening : Instant → World → Except Text Opened × World} (worlds : Nat → World)
  (outcomes : Nat → Except Text Opened)
  (follows : ∀ attempt, opening (now + policy.slept attempt) (worlds attempt) =
    (outcomes attempt, worlds (attempt + 1)))

include initial step follows

/-- Failures with attempts left behind them are slept through one after another. -/
theorem attempts_after_failures (attempt failures remaining : Nat)
    (failed : ∀ made < failures, IsFailure (outcomes (attempt + made))) :
    attempts policy path total opening attempt (now + policy.slept attempt) (worlds attempt)
        (failures + (remaining + 1)) =
      let rest := attempts policy path total opening (attempt + failures)
        (now + policy.slept (attempt + failures)) (worlds (attempt + failures)) (remaining + 1)
      ({ rest.1 with log := failureLog policy now total outcomes attempt failures ++ rest.1.log },
        rest.2) := by
  induction failures generalizing attempt with
  | zero => simp [failureLog]
  | succ failures ih =>
      have first : IsFailure (outcomes attempt) := failed 0 (Nat.succ_pos failures)
      have own : opening (now + policy.slept attempt) (worlds attempt) =
          (.error (reasonOf (outcomes attempt)), worlds (attempt + 1)) := by
        rw [follows, ← first]
      have later := ih (attempt + 1) fun made below => by
        rw [Nat.add_right_comm, Nat.add_assoc]
        exact failed (made + 1) (Nat.succ_lt_succ below)
      have waits : now + policy.slept attempt + policy.pause attempt =
          now + policy.slept (attempt + 1) := by
        rw [RetryPolicy.slept_succ initial step, add_assoc]
      have count : failures + 1 + (remaining + 1) = failures + remaining + 2 := by omega
      have place : attempt + 1 + failures = attempt + (failures + 1) := by omega
      rw [count, attempts_of_error own, waits, Nat.add_assoc failures, later, place]
      simp [failureLog, List.range'_succ]

/-- The first success ends the attempts. -/
theorem attempts_succeed (failures remaining : Nat) (connection : Opened)
    (failed : ∀ made < failures, IsFailure (outcomes made))
    (opened : outcomes failures = .ok connection) :
    attempts policy path total opening 0 now (worlds 0) (failures + (remaining + 1)) =
      ({ time := now + policy.slept failures, outcome := .ok connection
         log := failureLog policy now total outcomes 0 failures ++
          [successEntry (now + policy.slept failures) path] }, worlds (failures + 1)) := by
  have ran := attempts_after_failures initial step path total now worlds outcomes follows 0 failures
    remaining fun made below => by rw [Nat.zero_add]; exact failed made below
  have ends : opening (now + policy.slept failures) (worlds failures) =
      (.ok connection, worlds (failures + 1)) := by rw [follows, opened]
  simp only [RetryPolicy.slept_zero, add_zero, Nat.zero_add, attempts_of_ok ends] at ran
  exact ran

/-- Failures alone use up all attempts, and nothing is slept behind the last one. -/
theorem attempts_fail (failures : Nat)
    (failed : ∀ made < failures + 1, IsFailure (outcomes made)) :
    attempts policy path total opening 0 now (worlds 0) (failures + 1) =
      ({ time := now + policy.slept failures
         outcome := .error (.exhausted path total (reasonOf (outcomes failures)))
         log := failureLog policy now total outcomes 0 (failures + 1) }, worlds (failures + 1)) := by
  have ran := attempts_after_failures initial step path total now worlds outcomes follows 0 failures
    0 fun made below => by rw [Nat.zero_add]; exact failed made (Nat.lt_succ_of_lt below)
  have ends : opening (now + policy.slept failures) (worlds failures) =
      (.error (reasonOf (outcomes failures)), worlds (failures + 1)) := by
    rw [follows, ← failed failures (Nat.lt_succ_self failures)]
  simp only [RetryPolicy.slept_zero, add_zero, Nat.zero_add, attempts_of_last ends] at ran
  rw [ran]
  simp [failureLog, List.range'_concat]

end Run

/-!
## Outcomes in order
-/

/-- Opening with given outcomes, which counts how often it was tried. -/
def numbered (outcomes : Nat → Except Text Opened) (_ : Instant) (made : Nat) :
    Except Text Opened × Nat :=
  (outcomes made, made + 1)

/-- How connecting follows the outcomes of its attempts, together with the number of attempts. -/
structure FollowsOutcomes (policy : RetryPolicy) (path : Text) (total : Nat) (now : Instant)
    (outcomes : Nat → Except Text Opened) : Prop where
  /-- No more attempts are made than the policy allows. -/
  bounded : (follow policy path (numbered outcomes) now 0).2 ≤ total
  /-- The first success is the last attempt, after the delays behind the failures before it. -/
  succeeds : ∀ failures connection, failures < total →
    (∀ made < failures, IsFailure (outcomes made)) → outcomes failures = .ok connection →
    follow policy path (numbered outcomes) now 0 =
      ({ time := now + policy.slept failures, outcome := .ok connection
         log := failureLog policy now total outcomes 0 failures ++
          [successEntry (now + policy.slept failures) path] }, failures + 1)
  /-- Failures alone end with the reason of the last one, and nothing is slept behind it. -/
  fails : (∀ made < total, IsFailure (outcomes made)) →
    follow policy path (numbered outcomes) now 0 =
      ({ time := now + policy.slept (total - 1)
         outcome := .error (.exhausted path total (reasonOf (outcomes (total - 1))))
         log := failureLog policy now total outcomes 0 total }, total)

/-- Every sequence of outcomes either begins with a success behind some failures, or with as many
failures as there are attempts. -/
theorem exists_first_success (outcomes : Nat → Except Text Opened) (total : Nat) :
    (∃ failures < total, (∀ made < failures, IsFailure (outcomes made)) ∧
        ∃ connection, outcomes failures = .ok connection) ∨
      ∀ made < total, IsFailure (outcomes made) := by
  induction total with
  | zero => exact .inr fun made below => absurd below (Nat.not_lt_zero made)
  | succ total ih =>
      rcases ih with ⟨failures, below, found⟩ | failed
      · exact .inl ⟨failures, Nat.lt_succ_of_lt below, found⟩
      · cases outcome : outcomes total with
        | ok connection => exact .inl ⟨total, Nat.lt_succ_self total, failed, connection, outcome⟩
        | error reason =>
            refine .inr fun made below => ?_
            rcases Nat.lt_succ_iff_lt_or_eq.mp below with earlier | rfl
            · exact failed made earlier
            · rw [IsFailure, outcome]
              rfl

theorem connects_at_first_success (policy : RetryPolicy) (path : Text) (now : Instant)
    (outcomes : Nat → Except Text Opened) (allowed : 1 ≤ policy.attempts)
    (initial : 0 ≤ policy.initialDelay) (step : 0 ≤ policy.backoffStep) :
    FollowsOutcomes policy path policy.attempts.toNat now outcomes := by
  have follows : ∀ attempt, numbered outcomes (now + policy.slept attempt) (id attempt) =
      (outcomes attempt, id (attempt + 1)) := fun attempt => rfl
  obtain ⟨last, total⟩ : ∃ last, policy.attempts.toNat = last + 1 :=
    Nat.exists_eq_add_one_of_ne_zero (by omega)
  have started : follow policy path (numbered outcomes) now 0 =
      attempts policy path (last + 1) (numbered outcomes) 0 now (id 0) (last + 1) := by
    rw [follow, if_neg (by omega), total]
    rfl
  have succeeds : ∀ failures connection, failures < last + 1 →
      (∀ made < failures, IsFailure (outcomes made)) → outcomes failures = .ok connection →
      follow policy path (numbered outcomes) now 0 =
        ({ time := now + policy.slept failures, outcome := .ok connection
           log := failureLog policy now (last + 1) outcomes 0 failures ++
            [successEntry (now + policy.slept failures) path] }, failures + 1) := by
    intro failures connection below failed opened
    obtain ⟨remaining, rest⟩ := Nat.exists_eq_add_of_lt below
    have ran := attempts_succeed initial step path (last + 1) now id outcomes follows failures
      remaining connection failed opened
    rw [← Nat.add_assoc, ← rest] at ran
    exact started.trans ran
  have fails : (∀ made < last + 1, IsFailure (outcomes made)) →
      follow policy path (numbered outcomes) now 0 =
        ({ time := now + policy.slept last
           outcome := .error (.exhausted path (last + 1) (reasonOf (outcomes last)))
           log := failureLog policy now (last + 1) outcomes 0 (last + 1) }, last + 1) := fun failed =>
    started.trans (attempts_fail initial step path (last + 1) now id outcomes follows last failed)
  rw [total]
  refine ⟨?_, succeeds, fails⟩
  rcases exists_first_success outcomes (last + 1) with
    ⟨failures, below, failed, connection, opened⟩ | failed
  · rw [succeeds failures connection below failed opened]
    exact below
  · rw [fails failed]

/-- The third of at most four attempts opens the database. -/
def thirdOpens : Nat → Except Text Unit
  | 0 => .error "unable to open database file"
  | 1 => .error "database is locked"
  | _ => .ok ()

theorem thirdOpens_connects : (1 : Int) ≤ 4 ∧ (0 : Rat) ≤ 1 ∧ (0 : Rat) ≤ 5 ∧
    follow { attempts := 4 } ":memory:" (numbered thirdOpens) 0 0 =
      ({ time := 7, outcome := .ok ()
         log := [failureEntry 0 0 4 "unable to open database file",
          failureEntry 1 1 4 "database is locked", successEntry 7 ":memory:"] }, 3) := by
  refine ⟨by decide, by norm_num, by norm_num, ?_⟩
  have connects := (connects_at_first_success { attempts := 4 } ":memory:" 0 thirdOpens (by decide)
    (by norm_num) (by norm_num)).succeeds 2 () (by decide) (fun made below => by
      match made, below with
      | 0, _ => rfl
      | 1, _ => rfl) rfl
  rw [connects]
  simp [failureLog, List.range'_succ, RetryPolicy.slept, thirdOpens, reasonOf]
  norm_num

end Connecting

end EventForge
