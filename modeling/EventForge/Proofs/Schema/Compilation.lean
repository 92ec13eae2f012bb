import EventForge.Proofs.Schema.Entity
import EventForge.Proofs.Schema.Validation
import EventForge.Proofs.Text.Order
import EventForge.Schema.Loading

/-!
# Compilation of valid schemas

An accepted schema compiles, and the result is given field by field: validation has made sure of
everything that fields, entities and compiled schemas check once more.
-/

/-!
## Accepted schemas
-/

namespace EventForge

namespace Compilation

/-- The type that an accepted field names. -/
def scalarOf (type : Document) : ScalarType := (ScalarType.ofDocument? type).getD .integer

/-- The field of an accepted declaration. -/
def fieldOf (name : Text) (scalar : ScalarType) (position : Nat) : Field :=
  { name := Identifier.attributeName name
    declaredName := name
    type := scalar
    position
    isTime := name == timeName
    insertable := true
    generator := if name == timeName then timeGenerator else scalar.generator
    comment := ("generated based on " : Text) ++ name ++ " with type " ++ scalar.label }

/-- The field of the creation time at a position. -/
def creationAt (position : Nat) : Field :=
  { name := Entity.creationColumn
    declaredName := Entity.creationColumn
    type := .timestamp
    position
    generator := creationGenerator
    comment := "added by the generator so all types have created_at" }

/-- The fields of accepted declarations from a position on. -/
def fieldsFrom (position : Nat) : Fields Document → List Field
  | [] => []
  | (name, type) :: fields =>
      fieldOf name (scalarOf type) position :: fieldsFrom (position + 1) fields

/-- The fields of an accepted event. -/
def fieldsOf (event : RawEvent) : List Field :=
  fieldsFrom 0 (Validation.sortFields event.typeMapping) ++ [creationAt event.typeMapping.length]

/-- The entity of an accepted event. -/
def entityOf (event : RawEvent) : Entity :=
  { name := Identifier.camelCase event.name
    declaredName := event.name
    fields := fieldsOf event
    insertTemplate := (Entity.fragments (fieldsOf event)).1
    projectedColumns := (Entity.fragments (fieldsOf event)).2
    typeLabel := event.typeLabel }

/-- The compiled form of an accepted schema. -/
def schemaOf (schema : RawSchema) (sourcePath : Option Text) : CompiledSchema :=
  { entities := (Validation.sortEvents schema.events).map entityOf
    sourcePath := sourcePath <|> schema.path }

/-- A registered type is the text of its label. -/
theorem eq_label_of_isRegistered (type : Document) (registered : ScalarType.isRegistered type = true) :
    ScalarType.ofDocument? type = some (scalarOf type) ∧
      type = .text (scalarOf type).label := by
  cases type with
  | text label =>
      simp only [ScalarType.isRegistered, Option.isSome_iff_exists] at registered
      obtain ⟨scalar, found⟩ := registered
      have labelled : scalar.label = label := by
        have matched := List.find?_some found
        simpa using matched
      simp [scalarOf, found, labelled]
  | _ => simp [ScalarType.isRegistered, ScalarType.ofDocument?] at registered

theorem make_field (name declaredName : Text) (type : ScalarType) (position : Nat)
    (isTime insertable : Bool) (generator comment : Text) (inhabited : name ≠ []) :
    Field.make name declaredName type position isTime insertable generator comment =
      .ok { name, declaredName, type, position, isTime, insertable, generator, comment } := by
  have nonempty : name.isEmpty = false := by simpa using inhabited
  simp [Field.make, nonempty, Int.not_lt.mpr (Int.natCast_nonneg position)]

theorem declaredField_eq (name : Text) (type : Document) (position : Nat)
    (usable : Identifier.isUsable name = true)
    (registered : ScalarType.isRegistered type = true) :
    declaredField name type position = .ok (fieldOf name (scalarOf type) position) := by
  obtain ⟨found, labelled⟩ := eq_label_of_isRegistered type registered
  have inhabited := Identifier.attributeName_ne_nil name
    (Identifier.isAscii_of_isUsable name usable) (Identifier.ne_nil_of_isUsable name usable)
  have plain : type.plain = (scalarOf type).label := by
    generalize scalarOf type = scalar at labelled
    rw [labelled]
    rfl
  simp only [declaredField, found, plain, make_field _ _ _ _ _ _ _ _ inhabited]
  rfl

theorem declaredFields_eq (position : Nat) (fields : Fields Document)
    (usable : ∀ field ∈ fields, Identifier.isUsable field.1 = true)
    (registered : ∀ field ∈ fields, ScalarType.isRegistered field.2 = true) :
    declaredFields position fields = .ok (fieldsFrom position fields) := by
  induction fields generalizing position with
  | nil => rfl
  | cons field fields ih =>
      obtain ⟨name, type⟩ := field
      have own := declaredField_eq name type position (usable (name, type) (by simp))
        (registered (name, type) (by simp))
      have others := ih (position + 1) (fun other member => usable other (by simp [member]))
        fun other member => registered other (by simp [member])
      simp [declaredFields, fieldsFrom, own, others]

@[simp] theorem fieldsFrom_length (position : Nat) (fields : Fields Document) :
    (fieldsFrom position fields).length = fields.length := by
  induction fields generalizing position with
  | nil => rfl
  | cons field fields ih => simp [fieldsFrom, ih]

theorem mem_fieldsFrom (position : Nat) (fields : Fields Document) (field : Field)
    (member : field ∈ fieldsFrom position fields) :
    ∃ declared ∈ fields, ∃ place,
      field = fieldOf declared.1 (scalarOf declared.2) place := by
  induction fields generalizing position with
  | nil => simp [fieldsFrom] at member
  | cons head fields ih =>
      rcases List.mem_cons.mp member with rfl | member
      · exact ⟨head, by simp, position, rfl⟩
      · obtain ⟨declared, declaredMember, place, rfl⟩ := ih _ member
        exact ⟨declared, by simp [declaredMember], place, rfl⟩

/-- Whatever depends on the declared name only, depends on the declarations only. -/
theorem map_fieldsFrom {Value : Type} (position : Nat) (fields : Fields Document)
    (view : Field → Value) (image : Text × Document → Value)
    (agrees : ∀ field ∈ fields, ∀ place,
      view (fieldOf field.1 (scalarOf field.2) place) = image field) :
    (fieldsFrom position fields).map view = fields.map image := by
  induction fields generalizing position with
  | nil => rfl
  | cons field fields ih =>
      simp only [fieldsFrom, List.map_cons, agrees field (by simp)]
      rw [ih _ fun other member => agrees other (by simp [member])]

/-- All fields of an accepted event are stored. -/
theorem filter_insertable_fieldsOf (event : RawEvent) :
    (fieldsOf event).filter (fun field => field.insertable) = fieldsOf event := by
  rw [List.filter_eq_self]
  intro field member
  rcases List.mem_append.mp member with member | member
  · obtain ⟨declared, _, place, rfl⟩ := mem_fieldsFrom _ _ _ member
    rfl
  · rw [List.mem_singleton.mp member]
    rfl

/-- Names are distinct if what is computed from them is. -/
theorem names_nodup (event : RawEvent) (accepted : Validation.AcceptsEvent event) :
    (event.typeMapping.map fun field => field.1).Nodup := by
  have columns := accepted.columnsDistinct
  rw [List.nodup_iff_pairwise_ne, List.pairwise_map] at columns ⊢
  exact columns.imp fun apart same => apart (by rw [same])

/-- A name is declared by one of the fields exactly once. -/
theorem countP_timeName (event : RawEvent) (accepted : Validation.AcceptsEvent event) :
    event.typeMapping.countP (fun field => field.1 == timeName) = 1 := by
  obtain ⟨field, member, named⟩ := accepted.hasTime
  have declared : timeName ∈ event.typeMapping.map fun field => field.1 :=
    List.mem_map.mpr ⟨field, member, named⟩
  have counted := (names_nodup event accepted).count (a := timeName)
  rw [if_pos declared, List.count, List.countP_map] at counted
  exact counted

theorem oneTime_fieldsOf (event : RawEvent) (accepted : Validation.AcceptsEvent event) :
    ((fieldsOf event).filter fun field => field.isTime).length = 1 := by
  have perm := Validation.sortFields_perm event.typeMapping
  have views := map_fieldsFrom 0 (Validation.sortFields event.typeMapping)
    (fun field => field.isTime) (fun field => field.1 == timeName) fun _ _ _ => rfl
  have times : (fieldsFrom 0 (Validation.sortFields event.typeMapping)).countP
      (fun field => field.isTime) = 1 := by
    calc
      _ = ((fieldsFrom 0 (Validation.sortFields event.typeMapping)).map
            fun field => field.isTime).countP id := by rw [List.countP_map]; rfl
      _ = ((Validation.sortFields event.typeMapping).map
            fun field => field.1 == timeName).countP id := by rw [views]
      _ = event.typeMapping.countP fun field => field.1 == timeName := by
          rw [List.countP_map, perm.countP_eq]; rfl
      _ = 1 := countP_timeName event accepted
  rw [← List.countP_eq_length_filter, fieldsOf, List.countP_append, times]
  rfl

/-- A usable name holds no comma and is left whole. -/
theorem isWhole_of_isUsable (field : Field)
    (usable : Identifier.isUsable field.declaredName = true) : Entity.IsWhole field := by
  apply Text.splitPair_of_not_mem
  intro member
  rcases Identifier.mem_isIdentifierText _ (Identifier.isIdentifierText_of_isUsable _ usable) _
    member with later | feed
  · exact absurd later (by decide)
  · exact absurd feed (by decide)

theorem isUsable_of_mem_fieldsOf (event : RawEvent) (accepted : Validation.AcceptsEvent event)
    (field : Field) (member : field ∈ fieldsOf event) :
    Identifier.isUsable field.declaredName = true := by
  rcases List.mem_append.mp member with member | member
  · obtain ⟨declared, declaredMember, place, rfl⟩ := mem_fieldsFrom _ _ _ member
    exact accepted.fieldsUsable declared
      ((Validation.sortFields_perm _).mem_iff.mp declaredMember)
  · rw [List.mem_singleton.mp member]
    exact Identifier.isUsable_created_at

section Names

variable (event : RawEvent) (accepted : Validation.AcceptsEvent event)

include accepted

/-- The attributes of an accepted event are distinct. -/
theorem names_fieldsOf_nodup : ((fieldsOf event).map fun field => field.name).Nodup := by
  have perm := Validation.sortFields_perm event.typeMapping
  rw [fieldsOf, List.map_append, map_fieldsFrom 0 _ (fun field => field.name)
    (fun field => Identifier.attributeName field.1) fun _ _ _ => rfl, List.nodup_append]
  refine ⟨(perm.map _).nodup_iff.mpr accepted.attributesDistinct, by simp, ?_⟩
  intro name member creation creationMember
  obtain ⟨field, declared, rfl⟩ := List.mem_map.mp member
  rw [List.mem_singleton.mp creationMember]
  exact (accepted.creationFree field (perm.mem_iff.mp declared)).2.1

/-- The columns of an accepted event differ, whatever the case of their letters is. -/
theorem columns_fieldsOf_nodup :
    ((fieldsOf event).map fun field => field.declaredName.toAsciiLower).Nodup := by
  have perm := Validation.sortFields_perm event.typeMapping
  have lowered : ∀ field ∈ event.typeMapping, field.1.toAsciiLower = field.1.fold :=
    fun field member => (Text.fold_ascii _
      (Identifier.isAscii_of_isUsable _ (accepted.fieldsUsable field member))).symm
  have columns : ((Validation.sortFields event.typeMapping).map
      fun field => field.1.toAsciiLower).Nodup := by
    rw [(perm.map _).nodup_iff, List.map_congr_left lowered]
    exact accepted.columnsDistinct
  rw [fieldsOf, List.map_append, map_fieldsFrom 0 _ (fun field => field.declaredName.toAsciiLower)
    (fun field => field.1.toAsciiLower) fun _ _ _ => rfl, List.nodup_append]
  refine ⟨columns, by simp, ?_⟩
  intro name member creation creationMember
  obtain ⟨field, declared, rfl⟩ := List.mem_map.mp member
  have fieldMember := perm.mem_iff.mp declared
  have lower : Entity.creationColumn.toAsciiLower = Entity.creationColumn := by decide
  obtain rfl : creation = Entity.creationColumn.toAsciiLower := by
    simpa [creationAt] using creationMember
  rw [lower, lowered field fieldMember]
  exact (accepted.creationFree field fieldMember).2.2

end Names

theorem isComplete_fieldsOf (event : RawEvent) (accepted : Validation.AcceptsEvent event) :
    Entity.IsComplete (fieldsOf event) where
  oneTime := oneTime_fieldsOf event accepted
  ends := ⟨_, List.getLast?_concat, rfl, rfl⟩
  storesSome := ⟨_, List.mem_append_right _ List.mem_cons_self, rfl⟩

theorem compileEvent_eq (event : RawEvent) (accepted : Validation.AcceptsEvent event) :
    compileEvent event = .ok (entityOf event) := by
  have perm := Validation.sortFields_perm event.typeMapping
  have declared := declaredFields_eq 0 (Validation.sortFields event.typeMapping)
    (fun field member => accepted.fieldsUsable field (perm.mem_iff.mp member))
    fun field member => accepted.typesRegistered field (perm.mem_iff.mp member)
  have creation : creationField event.typeMapping.length =
      .ok (creationAt event.typeMapping.length) :=
    make_field _ _ _ _ _ _ _ _ (by decide)
  have made := Entity.make_fragments (Identifier.camelCase event.name) event.name event.typeLabel
    (fieldsOf event) (isComplete_fieldsOf event accepted)
    fun field member => isWhole_of_isUsable field (isUsable_of_mem_fieldsOf event accepted field member)
  simp only [compileEvent, declared, Outcome.ok_bind, fieldsFrom_length, perm.length_eq, creation]
  exact made

theorem areSorted_of_pairwise (texts : List Text)
    (ordered : texts.Pairwise fun first second => Text.le first second = true) :
    CompiledSchema.areSorted texts = true := by
  induction texts with
  | nil => rfl
  | cons first texts ih =>
      cases texts with
      | nil => rfl
      | cons second texts =>
          obtain ⟨least, orderedRest⟩ := List.pairwise_cons.mp ordered
          simp only [CompiledSchema.areSorted, Bool.and_eq_true]
          exact ⟨least second (by simp), ih orderedRest⟩

/-- Compilation of an accepted schema never fails, and this is its result. -/
theorem compile_eq (schema : ValidatedSchema) (sourcePath : Option Text) :
    compile schema sourcePath = .ok (schemaOf schema.raw sourcePath) := by
  have accepted := (Validation.errors_eq_nil_iff schema.raw).mp schema.valid
  have entities := Outcome.mapM_eq_ok_map compileEvent entityOf schema.events
    fun event member => compileEvent_eq event
      (accepted.events event ((Validation.sortEvents_perm _).mem_iff.mp member))
  have names : (schema.events.map entityOf).map (fun entity => entity.declaredName) =
      schema.events.map fun event => event.name := by
    rw [List.map_map]
    rfl
  have sorted : CompiledSchema.areSorted
      ((schema.events.map entityOf).map fun entity => entity.declaredName) = true := by
    rw [names]
    exact areSorted_of_pairwise _ (Text.sortBy_pairwise (fun event : RawEvent => event.name) _)
  simp only [compile, entities, Outcome.ok_bind, CompiledSchema.make, sorted, if_true]
  rfl

theorem compileRaw_eq (schema : RawSchema) (sourcePath : Option Text)
    (valid : Validation.errors schema = .ok []) :
    compileRaw schema sourcePath = .ok (schemaOf schema sourcePath) := by
  simp [compileRaw, Validation.validate_of_errors_nil schema valid, compile_eq]

theorem compileRaw_of_errors (schema : RawSchema) (sourcePath : Option Text)
    (error : SchemaError) (others : List SchemaError)
    (found : Validation.errors schema = .ok (error :: others)) :
    compileRaw schema sourcePath = .error (.invalid (.schema error)) := by
  simp [compileRaw, Validation.validate_of_errors_cons schema error others found]

/-- Compilation of a schema, with the first of its errors if it has some. -/
theorem compileRaw_eq_errors (schema : RawSchema) (sourcePath : Option Text) :
    compileRaw schema sourcePath =
      match Validation.errors schema with
      | .ok [] => .ok (schemaOf schema sourcePath)
      | .ok (error :: _) => .error (.invalid (.schema error))
      | .error fault => .error (.invalid (.display fault)) := by
  split
  · rename_i valid
    exact compileRaw_eq schema sourcePath valid
  · rename_i error others found
    exact compileRaw_of_errors schema sourcePath error others found
  · rename_i fault found
    simp [compileRaw, Validation.validate_of_errors_fault schema fault found]

/-- What compiles is accepted, and compiles to what it should. -/
theorem of_compileRaw (schema : RawSchema) (sourcePath : Option Text) (compiled : CompiledSchema)
    (made : compileRaw schema sourcePath = .ok compiled) :
    Validation.Accepts schema ∧ compiled = schemaOf schema sourcePath := by
  rw [compileRaw_eq_errors] at made
  split at made
  · rename_i valid
    exact ⟨(Validation.errors_eq_nil_iff schema).mp valid, (Except.ok.inj made).symm⟩
  · cases made
  · cases made

end Compilation

end EventForge
