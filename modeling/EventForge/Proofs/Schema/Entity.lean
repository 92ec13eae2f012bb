import EventForge.Proofs.Outcome
import EventForge.Proofs.Text.Ascii
import EventForge.Proofs.Text.Pieces
import EventForge.Schema.Entity

/-!
# Entities and their fragments

An entity is made from its parts exactly if its fields have one time and end with the time of
creation, and its fragments are those of the fields.  The fragments are split to see this, so that
it holds as long as no column name would be split itself.
-/

namespace EventForge.Entity

/-- The placeholders with the given number of texts, counted from a number. -/
def placeholders (count : Nat) : List Text :=
  (List.range count).map fun index => placeholder (index + 1)

theorem fragments_eq (fields : List Field) :
    fragments fields =
      (Text.join ", " (placeholders (fields.filter fun field => field.insertable).length),
        Text.join ", " ((fields.filter fun field => field.insertable).map fun field =>
          field.declaredName)) := rfl

/-- The points of the text between two parts of a fragment. -/
theorem separator_eq : (", " : Text) = [CodePoint.ofChar ',', CodePoint.ofChar ' '] := rfl

theorem comma_not_mem_placeholder (number : Nat) : CodePoint.ofChar ',' ∉ placeholder number := by
  intro member
  rcases List.mem_append.mp member with member | member
  · exact absurd member (by decide)
  · exact Text.not_mem_ofNat number _ (by decide) member

theorem split_placeholders (count : Nat) (positive : 0 < count) :
    Text.splitPair ',' ' ' (Text.join ", " (placeholders count)) = placeholders count := by
  rw [separator_eq]
  apply Text.splitPair_join _ _ (by decide)
  · cases count with
    | zero => exact absurd positive (Nat.lt_irrefl 0)
    | succ count => simp [placeholders, List.range_succ]
  · intro piece member
    obtain ⟨index, _, rfl⟩ := List.mem_map.mp member
    exact Text.splitPair_of_not_mem _ _ _ (comma_not_mem_placeholder (index + 1))

/-- Whether a column name is left whole when columns are split. -/
def IsWhole (field : Field) : Prop :=
  Text.splitPair ',' ' ' field.declaredName = [field.declaredName]

theorem isWhole_iff (field : Field) : IsWhole field ↔ ¬(", " : Text) <:+: field.declaredName :=
  Text.splitPair_eq_self_iff _ _ field.declaredName

theorem split_columns (fields : List Field) (inhabited : fields ≠ [])
    (whole : ∀ field ∈ fields, IsWhole field) :
    Text.splitPair ',' ' ' (Text.join ", " (fields.map fun field => field.declaredName)) =
      fields.map fun field => field.declaredName := by
  rw [separator_eq]
  apply Text.splitPair_join _ _ (by decide)
  · simpa using inhabited
  · intro piece member
    obtain ⟨field, fieldMember, rfl⟩ := List.mem_map.mp member
    exact whole field fieldMember

/-- The search for a misalignment goes through as many pieces as there are stored fields, and counts
the placeholders as it goes. -/
theorem misalignment?_eq_none_iff (number : Nat) (given columns : List Text) (fields : List Field)
    (givenSize : given.length = fields.length) (columnSize : columns.length = fields.length) :
    misalignment? number given columns fields = none ↔
      given = (List.range fields.length).map (fun index => placeholder (number + index)) ∧
        columns = fields.map fun field => field.declaredName := by
  induction fields generalizing number given columns with
  | nil =>
      rw [List.eq_nil_of_length_eq_zero givenSize, List.eq_nil_of_length_eq_zero columnSize]
      simp [misalignment?]
  | cons field fields ih =>
      obtain ⟨first, given, rfl⟩ := List.exists_cons_of_length_eq_add_one givenSize
      obtain ⟨column, columns, rfl⟩ := List.exists_cons_of_length_eq_add_one columnSize
      have rest := ih (number + 1) given columns (by simpa using givenSize) (by simpa using columnSize)
      have shift : (fun index => placeholder (number + 1 + index)) =
          fun index => placeholder (number + (index + 1)) := by
        funext index
        rw [Nat.add_assoc, Nat.add_comm 1 index]
      rw [shift] at rest
      rw [misalignment?, List.length_cons, List.range_succ_eq_map, List.map_cons, List.map_map,
        List.map_cons, List.cons.injEq, List.cons.injEq]
      split
      · rename_i apart
        simp only [Nat.add_zero, reduceCtorEq, false_iff]
        rintro ⟨⟨sameFirst, _⟩, sameColumn, _⟩
        exact apart.elim (fun other => other sameColumn) fun other => other sameFirst
      · rename_i aligned
        obtain ⟨sameColumn, sameFirst⟩ := not_or.mp aligned
        rw [rest]
        simp only [not_not] at sameColumn sameFirst
        simp [sameColumn, sameFirst, Function.comp_def]

/-- What the fields of an entity satisfy, whatever its fragments are. -/
structure IsComplete (fields : List Field) : Prop where
  oneTime : (fields.filter fun field => field.isTime).length = 1
  ends : ∃ creation, fields.getLast? = some creation ∧
    creation.declaredName = creationColumn ∧ creation.type = .timestamp
  storesSome : ∃ field ∈ fields, field.insertable = true

theorem IsComplete.stored_ne_nil {fields : List Field} (complete : IsComplete fields) :
    (fields.filter fun field => field.insertable) ≠ [] := by
  obtain ⟨field, member, insertable⟩ := complete.storesSome
  exact List.ne_nil_of_mem (List.mem_filter.mpr ⟨member, insertable⟩)

/-- An entity that is made has passed the checks of its fields. -/
theorem ends_of_make (name declaredName insertTemplate projectedColumns typeLabel : Text)
    (fields : List Field) (entity : Entity)
    (made : make name declaredName fields insertTemplate projectedColumns typeLabel = .ok entity) :
    (fields.filter fun field => field.isTime).length = 1 ∧
      ∃ creation, fields.getLast? = some creation ∧
        creation.declaredName = creationColumn ∧ creation.type = .timestamp := by
  unfold make at made
  match times : fields.filter fun field => field.isTime with
  | [] => simp [times] at made
  | _ :: _ :: _ => simp [times] at made
  | [time] =>
      refine ⟨by rw [times]; rfl, ?_⟩
      cases last : fields.getLast? with
      | none => simp [times, last] at made
      | some creation =>
          by_cases apart : creation.declaredName ≠ creationColumn ∨ creation.type ≠ .timestamp
          · simp [times, last, apart] at made
          · simp only [not_or, not_not] at apart
            exact ⟨creation, rfl, apart⟩

/-- The checks that are left when the fields have passed theirs. -/
theorem make_of_ends (name declaredName insertTemplate projectedColumns typeLabel : Text)
    (fields : List Field) (oneTime : (fields.filter fun field => field.isTime).length = 1)
    (ends : ∃ creation, fields.getLast? = some creation ∧
      creation.declaredName = creationColumn ∧ creation.type = .timestamp) :
    make name declaredName fields insertTemplate projectedColumns typeLabel =
      let given := Text.splitPair ',' ' ' insertTemplate
      let columns := Text.splitPair ',' ' ' projectedColumns
      let stored := fields.filter fun field => field.insertable
      if given.length ≠ columns.length ∨ columns.length ≠ stored.length then
        .error (.fragmentCounts declaredName given.length columns.length stored.length)
      else
        match misalignment? 1 given columns stored with
        | some number => .error (.misaligned declaredName number)
        | none => .ok { name, declaredName, fields, insertTemplate, projectedColumns, typeLabel } := by
  obtain ⟨creation, last, named, typed⟩ := ends
  have some_time : (fields.filter fun field => field.isTime).isEmpty = false := by
    cases times : fields.filter fun field => field.isTime with
    | nil => simp [times] at oneTime
    | cons => rfl
  simp only [make, some_time, oneTime, last, named, typed]
  rfl

/-- An entity is made exactly of complete fields and fragments that are split into the placeholders
and the columns of the stored fields. -/
theorem make_eq_ok_iff (name declaredName insertTemplate projectedColumns typeLabel : Text)
    (fields : List Field) (entity : Entity) :
    make name declaredName fields insertTemplate projectedColumns typeLabel = .ok entity ↔
      IsComplete fields ∧
        Text.splitPair ',' ' ' insertTemplate =
          placeholders (fields.filter fun field => field.insertable).length ∧
        Text.splitPair ',' ' ' projectedColumns =
          (fields.filter fun field => field.insertable).map (fun field => field.declaredName) ∧
        entity =
          { name, declaredName, fields, insertTemplate, projectedColumns, typeLabel } := by
  have numbered : placeholders (fields.filter fun field => field.insertable).length =
      (List.range (fields.filter fun field => field.insertable).length).map fun index =>
        placeholder (1 + index) := by
    simp [placeholders, Nat.add_comm]
  rw [numbered]
  constructor
  · intro made
    obtain ⟨oneTime, ends⟩ := ends_of_make _ _ _ _ _ _ _ made
    simp only [make_of_ends _ _ _ _ _ _ oneTime ends] at made
    split at made
    · cases made
    rename_i counts
    simp only [not_or, not_not] at counts
    obtain ⟨sameCount, columnCount⟩ := counts
    split at made
    · cases made
    rename_i aligned
    obtain ⟨placed, named⟩ := (misalignment?_eq_none_iff 1 _ _ _
      (sameCount.trans columnCount) columnCount).mp aligned
    -- a text is never split into no pieces, so that some field is stored
    have storesSome : (fields.filter fun field => field.insertable) ≠ [] := by
      intro none
      rw [none] at placed
      exact Text.splitPair_ne_nil _ _ _ placed
    obtain ⟨field, member⟩ := List.exists_mem_of_ne_nil _ storesSome
    exact ⟨⟨oneTime, ends, field, List.mem_filter.mp member⟩, placed, named,
      (Except.ok.inj made).symm⟩
  · rintro ⟨complete, placed, named, rfl⟩
    simp only [make_of_ends _ _ _ _ _ _ complete.oneTime complete.ends]
    have aligned := (misalignment?_eq_none_iff 1 _ _ (fields.filter fun field => field.insertable)
      (by simp [placed]) (by simp [named])).mpr ⟨placed, named⟩
    rw [aligned, if_neg (by simp [placed, named])]

/-- Complete fields with their own fragments make an entity. -/
theorem make_fragments (name declaredName typeLabel : Text) (fields : List Field)
    (complete : IsComplete fields) (whole : ∀ field ∈ fields, IsWhole field) :
    make name declaredName fields (fragments fields).1 (fragments fields).2 typeLabel =
      .ok { name, declaredName, fields, insertTemplate := (fragments fields).1
            projectedColumns := (fragments fields).2, typeLabel } := by
  rw [make_eq_ok_iff, fragments_eq]
  have wholeStored : ∀ field ∈ fields.filter fun field => field.insertable, IsWhole field :=
    fun field member => whole field (List.mem_filter.mp member).1
  exact ⟨complete, split_placeholders _ (List.length_pos_iff.mpr complete.stored_ne_nil),
    split_columns _ complete.stored_ne_nil wholeStored, rfl⟩

/-- As long as no column would be split itself, an entity can be made of some fragments exactly if
the fields are complete and the fragments are those of the fields. -/
theorem made_iff_aligned (name declaredName insertTemplate projectedColumns typeLabel : Text)
    (fields : List Field) (whole : ∀ field ∈ fields, ¬(", " : Text) <:+: field.declaredName) :
    (∃ entity, make name declaredName fields insertTemplate projectedColumns typeLabel =
        .ok entity) ↔
      IsComplete fields ∧ (insertTemplate, projectedColumns) = fragments fields := by
  have wholeFields : ∀ field ∈ fields, IsWhole field :=
    fun field member => (isWhole_iff field).mpr (whole field member)
  constructor
  · rintro ⟨entity, made⟩
    obtain ⟨complete, placed, named, _⟩ := (make_eq_ok_iff _ _ _ _ _ _ _).mp made
    refine ⟨complete, ?_⟩
    rw [fragments_eq, Prod.mk.injEq]
    constructor
    · rw [← placed]
      exact (Text.join_splitPair _ _ insertTemplate).symm
    · rw [← named]
      exact (Text.join_splitPair _ _ projectedColumns).symm
  · rintro ⟨complete, aligned⟩
    obtain ⟨rfl, rfl⟩ := Prod.mk.inj aligned
    exact ⟨_, make_fragments _ _ _ _ complete wholeFields⟩

/-- Fields of which one is not stored and two have columns that end or begin with a half of the
separator. -/
def commaFields : List Field :=
  [{ name := "time", declaredName := "time", type := .timestamp, position := 0, isTime := true },
    { name := "total", declaredName := "total,", type := .integer, position := 1 },
    { name := "draft", declaredName := "draft", type := .bigint, position := 2
      insertable := false },
    { name := "left", declaredName := " left", type := .integer, position := 3 },
    { name := "created_at", declaredName := creationColumn, type := .timestamp, position := 4 }]

theorem commaFields_made :
    (∀ field ∈ commaFields, ¬(", " : Text) <:+: field.declaredName) ∧
      (∃ entity, make "Sale" "sale" commaFields "$1, $2, $3, $4"
        "time, total,,  left, created_at" [] = .ok entity) ∧
      ¬∃ entity, make "Sale" "sale" commaFields "$1, $2, $3, $4"
        "time, total, left, created_at" [] = .ok entity := by
  have whole : ∀ field ∈ commaFields, ¬(", " : Text) <:+: field.declaredName := by decide +kernel
  have complete : IsComplete commaFields :=
    ⟨rfl, ⟨_, rfl, rfl, rfl⟩, ⟨_, List.mem_cons_self, rfl⟩⟩
  refine ⟨whole, ?_, ?_⟩
  · exact (made_iff_aligned _ _ _ _ _ commaFields whole).mpr ⟨complete, by decide +kernel⟩
  · intro made
    exact absurd ((made_iff_aligned _ _ _ _ _ commaFields whole).mp made).2 (by decide +kernel)

end EventForge.Entity
