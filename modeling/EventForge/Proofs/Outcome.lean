import Mathlib.Data.List.Forall2

/-!
# Computations that can fail

A sequence of computations succeeds exactly if each of them does, and a failing one gives the
failure of the whole.
-/

namespace EventForge.Outcome

variable {Fault Other First Second : Type}

@[simp] theorem ok_bind (value : First) (next : First → Except Fault Second) :
    ((Except.ok value : Except Fault First) >>= next) = next value := (rfl)

@[simp] theorem error_bind (fault : Fault) (next : First → Except Fault Second) :
    ((Except.error fault : Except Fault First) >>= next) = .error fault := (rfl)

@[simp] theorem pure_eq_ok (value : First) : (pure value : Except Fault First) = .ok value := (rfl)

@[simp] theorem throw_eq_error (fault : Fault) :
    (throw fault : Except Fault First) = .error fault := (rfl)

@[simp] theorem mapError_ok (change : Fault → Other) (value : First) :
    (Except.ok value : Except Fault First).mapError change = .ok value := (rfl)

@[simp] theorem mapError_error (change : Fault → Other) (fault : Fault) :
    (Except.error fault : Except Fault First).mapError change = .error (change fault) := (rfl)

theorem bind_eq_ok_iff (first : Except Fault First) (next : First → Except Fault Second)
    (result : Second) :
    (first >>= next) = .ok result ↔ ∃ value, first = .ok value ∧ next value = .ok result := by
  cases first with
  | ok value => simp
  | error fault => simp

theorem mapError_eq_ok_iff (change : Fault → Other) (first : Except Fault First) (value : First) :
    first.mapError change = .ok value ↔ first = .ok value := by
  cases first <;> simp

/-- Computations that all succeed give the list of their values. -/
theorem mapM_eq_ok_map (compute : First → Except Fault Second) (value : First → Second)
    (items : List First) (each : ∀ item ∈ items, compute item = .ok (value item)) :
    items.mapM compute = .ok (items.map value) := by
  induction items with
  | nil => rfl
  | cons item items ih =>
      rw [List.mapM_cons, each item (by simp), ok_bind,
        ih fun other member => each other (by simp [member])]
      rfl

/-- Computations succeed together exactly if each of them gives its value. -/
theorem mapM_eq_ok_iff (compute : First → Except Fault Second) (items : List First)
    (values : List Second) :
    items.mapM compute = .ok values ↔
      List.Forall₂ (fun item value => compute item = .ok value) items values := by
  induction items generalizing values with
  | nil => simp [eq_comm]
  | cons item items ih =>
      simp only [List.mapM_cons, bind_eq_ok_iff, ih, pure_eq_ok, Except.ok.injEq,
        List.forall₂_cons_left_iff]
      constructor
      · rintro ⟨value, computed, others, each, rfl⟩
        exact ⟨value, others, computed, each, rfl⟩
      · rintro ⟨value, others, computed, each, rfl⟩
        exact ⟨value, computed, others, each, rfl⟩

/-- Computations that can give only some values give these. -/
theorem eq_map_of_mapM (compute : First → Except Fault Second)
    (value : First → Second) (items : List First) (values : List Second) (made : items.mapM compute = .ok values)
    (each : ∀ item ∈ items, ∀ found, compute item = .ok found → found = value item) :
    values = items.map value := by
  have computed := (mapM_eq_ok_iff _ _ _).mp made
  clear made
  induction computed with
  | nil => rfl
  | cons own _ ih =>
      rw [List.map_cons, each _ (by simp) _ own, ih fun other member => each other (by simp [member])]

/-- Computations one after the other give all their values, or the fault of one of them. -/
theorem mapM_ok_or_error (compute : First → Except Fault Second) (good : Second → Prop)
    (expected : Fault → Prop) (items : List First)
    (each : ∀ item ∈ items, (∃ value, compute item = .ok value ∧ good value) ∨
      ∃ fault, compute item = .error fault ∧ expected fault) :
    (∃ values, items.mapM compute = .ok values ∧ ∀ value ∈ values, good value) ∨
      ∃ fault, items.mapM compute = .error fault ∧ expected fault := by
  induction items with
  | nil => exact Or.inl ⟨[], rfl, by simp⟩
  | cons item items ih =>
      rw [List.mapM_cons]
      rcases each item (by simp) with ⟨value, computed, isGood⟩ | ⟨fault, failed, isExpected⟩
      · rcases ih fun other member => each other (by simp [member]) with
          ⟨values, computedRest, allGood⟩ | ⟨fault, failedRest, isExpected⟩
        · refine Or.inl ⟨value :: values, by simp [computed, computedRest], ?_⟩
          exact List.forall_mem_cons.mpr ⟨isGood, allGood⟩
        · exact Or.inr ⟨fault, by simp [computed, failedRest], isExpected⟩
      · exact Or.inr ⟨fault, by simp [failed], isExpected⟩

/-- A loop in which every step goes on comes to its end. -/
theorem forIn_goes_on (items : List First) (step : First → Unit → Except Fault (ForInStep Unit))
    (each : ∀ item ∈ items, step item () = .ok (.yield ())) :
    forIn items () step = (.ok () : Except Fault Unit) := by
  induction items with
  | nil => rfl
  | cons item items ih =>
      have others := ih fun other member => each other (by simp [member])
      simpa [List.forIn_cons, each item (by simp)] using others

/-- A loop that comes to its end has passed every check. -/
theorem of_forIn_eq_ok (items : List First) (check : First → Except Fault Unit) {ended : Unit}
    (passed : forIn items () (fun item _ => do
      check item
      .ok (.yield ())) = (.ok ended : Except Fault Unit)) :
    ∀ item ∈ items, check item = .ok () := by
  induction items with
  | nil => simp
  | cons item items ih =>
      rw [List.forIn_cons, bind_assoc] at passed
      obtain ⟨_, own, passed⟩ := (bind_eq_ok_iff _ _ _).mp passed
      exact List.forall_mem_cons.mpr ⟨own, ih passed⟩

/-- Each of the values that computations give is the value of the computation at its position. -/
theorem mapM_positions (compute : First → Except Fault Second) (items : List First)
    (values : List Second) (made : items.mapM compute = .ok values) :
    values.length = items.length ∧ ∀ (position : Nat) (item : First) (value : Second),
      items[position]? = some item → values[position]? = some value → compute item = .ok value := by
  induction items generalizing values with
  | nil =>
      obtain rfl : [] = values := Except.ok.inj made
      simp
  | cons first items ih =>
      rw [List.mapM_cons] at made
      obtain ⟨own, computed, made⟩ := (bind_eq_ok_iff _ _ _).mp made
      obtain ⟨others, computedRest, made⟩ := (bind_eq_ok_iff _ _ _).mp made
      obtain rfl : own :: others = values := Except.ok.inj made
      obtain ⟨length, each⟩ := ih others computedRest
      refine ⟨by simp [length], ?_⟩
      intro position item value itemAt valueAt
      cases position with
      | zero =>
          obtain rfl : first = item := by simpa using itemAt
          obtain rfl : own = value := by simpa using valueAt
          exact computed
      | succ position => exact each position item value (by simpa using itemAt) (by simpa using valueAt)

theorem mapM_some (items : List First) : (items.map some).mapM id = some items := by
  induction items with
  | nil => rfl
  | cons item items ih => rw [List.map_cons, List.mapM_cons, ih]; rfl

/-- Whether a computation fails or gives what has a property. -/
def Yields (good : Second → Prop) (made : Except Fault Second) : Prop :=
  ∀ value, made = .ok value → good value

theorem yields_ok {good : Second → Prop} {value : Second} (fits : good value) :
    Yields good (.ok value : Except Fault Second) := by
  intro other same
  rwa [← Except.ok.inj same]

theorem yields_error (good : Second → Prop) (fault : Fault) :
    Yields good (.error fault : Except Fault Second) := by
  intro value same
  cases same

theorem yields_bind {good : Second → Prop} {first : Except Fault First}
    {next : First → Except Fault Second} (each : ∀ value, first = .ok value → Yields good (next value)) :
    Yields good (first >>= next) := by
  intro value made
  obtain ⟨found, computed, made⟩ := (bind_eq_ok_iff _ _ _).mp made
  exact each found computed value made

/-- The branches of a condition are taken one by one, which `split` does more slowly. -/
theorem yields_ite {good : Second → Prop} {condition : Prop} [Decidable condition]
    {made other : Except Fault Second} (holds : condition → Yields good made)
    (fails : ¬condition → Yields good other) : Yields good (if condition then made else other) := by
  split
  · exact holds ‹_›
  · exact fails ‹_›

/-- What the first value has and each step keeps, the last value has. -/
theorem yields_foldlM {good : Second → Prop} (step : Second → First → Except Fault Second)
    (items : List First) (value : Second) (fits : good value)
    (each : ∀ value item, good value → Yields good (step value item)) :
    Yields good (items.foldlM step value) := by
  induction items generalizing value with
  | nil => exact yields_ok fits
  | cons item items ih =>
      rw [List.foldlM_cons]
      exact yields_bind fun next made => ih next (each value item fits next made)

end EventForge.Outcome
