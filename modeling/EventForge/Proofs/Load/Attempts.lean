import EventForge.Load.Loop
import EventForge.Proofs.Text.Order

/-!
# What a loop tries to do

A loop that ticks at some readings of the clock tries one operation after the other.  They follow from
its random source and from the set of its event types; neither its counters nor what becomes of an
operation play a part.
-/

namespace EventForge

theorem TypedLoop.eq_of_ofTypes {EventType : Type} {kind : LoopKind}
    {types : List (Text × EventType)} {seed : Int} {loop : TypedLoop EventType}
    (made : ofTypes kind types seed = .ok loop) :
    loop = { kind, source := RandomSource.ofSeed seed, types } := by
  unfold ofTypes at made
  split at made
  · cases made
  · exact (Except.ok.inj made).symm

theorem TypedLoop.ne_nil_of_ofTypes {EventType : Type} {kind : LoopKind}
    {types : List (Text × EventType)} {seed : Int} {loop : TypedLoop EventType}
    (made : ofTypes kind types seed = .ok loop) : types ≠ [] := by
  rintro rfl
  cases made

namespace LoadLoop

/-- A loop over event types depends on the set of them only. -/
theorem make_of_perm (kind : LoopKind) {first second : List (Text × EventClass)}
    (perm : first.Perm second) (distinct : (first.map Prod.fst).Nodup) (seed : Int) :
    make kind first seed = make kind second seed := by
  rw [make, make, sorted, sorted, Text.sortBy_eq_of_perm Prod.fst perm distinct]

/-- What a loop tries to do at some ticks, of which each has a reading of the clock. -/
def attempts : LoadLoop → List Clock → List LoadOperation
  | _, [] => []
  | loop, clock :: later =>
      (nextOperation clock loop).1.toOption.toList ++ attempts (nextOperation clock loop).2 later

/-- A loop with other counters. -/
def counting (stats : LoopStats) (loop : LoadLoop) : LoadLoop := { loop with stats }

/-- The counters play no part in what a loop does next, and stay as they are. -/
theorem nextOperation_counting (clock : Clock) (stats : LoopStats) (loop : LoadLoop) :
    nextOperation clock (counting stats loop) =
      ((nextOperation clock loop).1, counting stats (nextOperation clock loop).2) := by
  have event (loop : LoadLoop) : newEvent clock (counting stats loop) =
      ((newEvent clock loop).1, counting stats (newEvent clock loop).2) := rfl
  have query (loop : LoadLoop) : newQuery clock (counting stats loop) =
      ((newQuery clock loop).1, counting stats (newQuery clock loop).2) := by
    simp only [newQuery, event]
    rcases newEvent clock loop with ⟨made, after⟩
    cases made <;> rfl
  obtain ⟨kind, source, types, counters⟩ := loop
  cases kind with
  | writer => rfl
  | reader =>
      have same := query { kind := .reader, source, types, stats := counters }
      simp only [nextOperation, counting] at same ⊢
      rw [same]

theorem attempts_counting (clocks : List Clock) (stats : LoopStats) (loop : LoadLoop) :
    attempts (counting stats loop) clocks = attempts loop clocks := by
  induction clocks generalizing loop with
  | nil => rfl
  | cons clock later ih => simp only [attempts, nextOperation_counting, ih]

/-- A loop keeps its kind and its event types. -/
theorem nextOperation_kept (clock : Clock) (loop : LoadLoop) :
    (nextOperation clock loop).2.kind = loop.kind ∧
      (nextOperation clock loop).2.types = loop.types := by
  have event : (newEvent clock loop).2.kind = loop.kind ∧
      (newEvent clock loop).2.types = loop.types := ⟨rfl, rfl⟩
  have query : (newQuery clock loop).2.kind = loop.kind ∧
      (newQuery clock loop).2.types = loop.types := by
    unfold newQuery
    rcases made : newEvent clock loop with ⟨outcome, after⟩
    rw [made] at event
    cases outcome <;> exact event
  unfold nextOperation
  cases kind : loop.kind with
  | writer => exact ⟨event.1.trans kind, event.2⟩
  | reader => exact ⟨query.1.trans kind, query.2⟩

/-- A writer only ever stores. -/
theorem isStore_of_attempt (clock : Clock) (loop : LoadLoop) (writes : loop.kind = .writer)
    (operation : LoadOperation) (next : (nextOperation clock loop).1 = .ok operation) :
    ∃ event, operation = .store event := by
  obtain ⟨kind, source, types, stats⟩ := loop
  obtain rfl : kind = .writer := writes
  simp only [nextOperation] at next
  cases made : (newEvent clock { kind := .writer, source, types, stats }).1 with
  | error fault =>
      rw [made] at next
      cases next
  | ok event =>
      rw [made] at next
      exact ⟨event, (Except.ok.inj next).symm⟩

/-- A reader only ever queries. -/
theorem isQuery_of_attempt (clock : Clock) (loop : LoadLoop) (reads : loop.kind = .reader)
    (operation : LoadOperation) (next : (nextOperation clock loop).1 = .ok operation) :
    ∃ event low high, operation = .query event low high := by
  obtain ⟨kind, source, types, stats⟩ := loop
  obtain rfl : kind = .reader := reads
  simp only [nextOperation] at next
  cases made : (newQuery clock { kind := .reader, source, types, stats }).1 with
  | error fault =>
      rw [made] at next
      cases next
  | ok query =>
      rw [made] at next
      exact ⟨_, _, _, (Except.ok.inj next).symm⟩

theorem isStore_of_mem_attempts (clocks : List Clock) (loop : LoadLoop)
    (writes : loop.kind = .writer) :
    ∀ operation ∈ loop.attempts clocks, ∃ event, operation = .store event := by
  induction clocks generalizing loop with
  | nil => simp [attempts]
  | cons clock later ih =>
      intro operation member
      rcases List.mem_append.mp member with own | further
      · cases next : (nextOperation clock loop).1 with
        | error fault => simp [next, Except.toOption] at own
        | ok found =>
            obtain rfl : operation = found := by simpa [next, Except.toOption] using own
            exact isStore_of_attempt clock loop writes operation next
      · exact ih _ ((nextOperation_kept clock loop).1.trans writes) operation further

variable {World : Type} (perform : Performer World) (clock : Clock) (world : World)

/-- A tick performs the next operation, if there is one, and changes nothing of the loop but its
source and its counters. -/
theorem tick_eq (loop : LoadLoop) :
    (∃ stats, (tick perform clock world loop).2.1 =
        counting stats (nextOperation clock loop).2) ∧
      (tick perform clock world loop).2.2 =
        match (nextOperation clock loop).1 with
        | .ok operation => (perform world operation).2
        | .error _ => world := by
  unfold tick
  rcases nextOperation clock loop with ⟨outcome, after⟩
  cases outcome with
  | error fault => exact ⟨⟨after.stats, rfl⟩, rfl⟩
  | ok operation =>
      simp only
      rcases perform world operation with ⟨result, changed⟩
      cases result with
      | ok rows => exact ⟨⟨_, rfl⟩, rfl⟩
      | error fault => exact ⟨⟨after.stats, rfl⟩, rfl⟩

end LoadLoop

end EventForge
