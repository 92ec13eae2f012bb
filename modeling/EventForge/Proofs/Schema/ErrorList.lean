import EventForge.Proofs.Schema.Validation

/-!
# What the errors of a schema say

Only the collisions of names depend on what is visited before.  Every other error is about one event
or one field alone, and it is in the list exactly once however the visit goes.  A schema whose
unregistered types can be shown has a list of errors, and validation refuses it with the first.
-/

namespace EventForge.Validation

/-- The errors of a kind, in the order in which they are found. -/
def ofKind (kind : FaultKind) (found : List SchemaError) : List SchemaError :=
  found.filter fun error => error.kind == kind

@[simp] theorem ofKind_nil (kind : FaultKind) : ofKind kind [] = [] := rfl

@[simp] theorem ofKind_append (kind : FaultKind) (first second : List SchemaError) :
    ofKind kind (first ++ second) = ofKind kind first ++ ofKind kind second :=
  List.filter_append first second

theorem ofKind_flatMap {Item : Type} (kind : FaultKind) (items : List Item)
    (reported : Item → List SchemaError) :
    ofKind kind (items.flatMap reported) = items.flatMap fun item => ofKind kind (reported item) :=
  List.filter_flatMap

/-- An error of a field alone: its name is not usable, or its type is not registered. -/
def ownFieldErrors (event : Text) (field : Text × Document) : List SchemaError :=
  if Identifier.isUsable field.1 then
    if ScalarType.isRegistered field.2 then [] else [.unknownType event field.1 field.2.plain]
  else [.invalidIdentifier event (some field.1)]

/-- The errors of an event alone: those of its name and its fields, and that it has no time. -/
def ownErrors (event : RawEvent) : List SchemaError :=
  (if Identifier.isUsable event.name then [] else [.invalidIdentifier event.name none]) ++
    event.typeMapping.flatMap (ownFieldErrors event.name) ++
    (if (event.typeMapping.get? timeName).isSome then [] else [.missingTime event.name])

/-- Whether the type that a field is refused for can be shown. -/
def ShowsType (field : Text × Document) : Prop :=
  Identifier.isUsable field.1 = true → ScalarType.isRegistered field.2 = false →
    field.2.isDisplayable = true

/-- Whether every unregistered type of a schema can be shown. -/
def ShowsTypes (schema : RawSchema) : Prop :=
  ∀ event ∈ schema.events, ∀ field ∈ event.typeMapping, ShowsType field

/-- Every error of the place of a field is a collision. -/
theorem placeErrors_kind (event : Text) (taken : Taken) (name : Text) :
    ∀ error ∈ (placeErrors event taken name).1, error.kind = .duplicateName := by
  intro error member
  unfold placeErrors at member
  by_cases declared : name = Entity.creationColumn
  · obtain rfl : error = _ := by simpa [declared] using member
    rfl
  · simp only [declared, if_false] at member
    split at member
    · obtain rfl : error = _ := by simpa using member
      rfl
    · cases column : taken.columns.get? name.fold with
      | some other =>
          obtain rfl : error = _ := by simpa [column] using member
          rfl
      | none => simp [column] at member

theorem ofKind_placeErrors (kind : FaultKind) (alone : kind ≠ .duplicateName) (event : Text)
    (taken : Taken) (name : Text) : ofKind kind (placeErrors event taken name).1 = [] := by
  rw [ofKind, List.filter_eq_nil_iff]
  intro error member
  simpa [placeErrors_kind event taken name error member] using alone.symm

theorem ofKind_sharingErrors (kind : FaultKind) (alone : kind ≠ .duplicateName) (named : Named)
    (event : Text) : ofKind kind (sharingErrors named event) = [] := by
  have collides : ∀ error ∈ sharingErrors named event, error.kind = .duplicateName := by
    intro error member
    simp only [sharingErrors] at member
    split at member
    · obtain rfl : error = _ := by simpa using member
      rfl
    · obtain rfl : error = _ := by simpa using member
      rfl
    · simp at member
  rw [ofKind, List.filter_eq_nil_iff]
  intro error member
  simpa [collides error member] using alone.symm

/-- One field is visited, and its own errors are among those found, whatever is occupied. -/
theorem fieldErrors_ok (event : Text) (taken : Taken) (field : Text × Document)
    (shown : ShowsType field) :
    ∃ found after, fieldErrors event taken field.1 field.2 = .ok (found, after) ∧
      ∀ kind, kind ≠ .duplicateName → ofKind kind found = ofKind kind (ownFieldErrors event field) := by
  obtain ⟨name, type⟩ := field
  cases usable : Identifier.isUsable name with
  | false =>
      refine ⟨[.invalidIdentifier event (some name)], taken, by simp [fieldErrors, usable], ?_⟩
      intro kind _
      simp [ownFieldErrors, usable]
  | true =>
      have typed : typeErrors event name type = .ok (ownFieldErrors event (name, type)) := by
        cases registered : ScalarType.isRegistered type with
        | true => simp [typeErrors, ownFieldErrors, usable, registered]
        | false =>
            have typeShown := Document.plain?_of_isDisplayable type (shown usable registered)
            simp [typeErrors, ownFieldErrors, usable, registered, typeShown]
      refine ⟨_, _, by simp [fieldErrors, usable, typed]; exact ⟨rfl, rfl⟩, ?_⟩
      intro kind alone
      rw [ofKind_append, ofKind_placeErrors kind alone, List.append_nil]

/-- The fields are visited to the end, and the own errors of each are found. -/
theorem fieldsErrors_own (event : Text) (taken : Taken) (fields : Fields Document)
    (shown : ∀ field ∈ fields, ShowsType field) :
    ∃ found, fieldsErrors event taken fields = .ok found ∧
      ∀ kind, kind ≠ .duplicateName →
        ofKind kind found = ofKind kind (fields.flatMap (ownFieldErrors event)) := by
  induction fields generalizing taken with
  | nil => exact ⟨[], rfl, fun _ _ => rfl⟩
  | cons field fields ih =>
      obtain ⟨own, after, checked, ownReported⟩ :=
        fieldErrors_ok event taken field (shown field (by simp))
      obtain ⟨others, othersChecked, othersReported⟩ :=
        ih after fun other member => shown other (by simp [member])
      refine ⟨own ++ others, by simp [fieldsErrors, checked, othersChecked], ?_⟩
      intro kind alone
      rw [List.flatMap_cons, ofKind_append, ofKind_append, ownReported kind alone,
        othersReported kind alone]

/-- An event is visited, and its own errors are found in some order. -/
theorem eventErrors_own (event : RawEvent) (shown : ∀ field ∈ event.typeMapping, ShowsType field) :
    ∃ found, eventErrors event = .ok found ∧
      ∀ kind, kind ≠ .duplicateName → (ofKind kind found).Perm (ofKind kind (ownErrors event)) := by
  have perm := sortFields_perm event.typeMapping
  obtain ⟨fields, checked, reported⟩ := fieldsErrors_own event.name Taken.initial
    (sortFields event.typeMapping) fun field member => shown field (perm.mem_iff.mp member)
  refine ⟨_, by simp only [eventErrors, checked, Outcome.ok_bind, Outcome.pure_eq_ok]; rfl, ?_⟩
  intro kind alone
  have fieldsPerm : (ofKind kind fields).Perm
      (ofKind kind (event.typeMapping.flatMap (ownFieldErrors event.name))) := by
    rw [reported kind alone]
    exact (perm.flatMap_right _).filter _
  simp only [ownErrors, ofKind_append]
  exact (fieldsPerm.append_left _).append_right _

/-- The events are visited to the end, and the own errors of each are found. -/
theorem eventsErrors_own (named : Named) (events : List RawEvent)
    (shown : ∀ event ∈ events, ∀ field ∈ event.typeMapping, ShowsType field) :
    ∃ found, eventsErrors named events = .ok found ∧
      ∀ kind, kind ≠ .duplicateName →
        (ofKind kind found).Perm (ofKind kind (events.flatMap ownErrors)) := by
  induction events generalizing named with
  | nil => exact ⟨[], rfl, fun _ _ => .nil⟩
  | cons event events ih =>
      obtain ⟨own, checked, ownReported⟩ := eventErrors_own event (shown event (by simp))
      obtain ⟨others, othersChecked, othersReported⟩ := ih
        { classes := occupy (Identifier.camelCase event.name) event.name named.classes
          tables := occupy event.name.fold event.name named.tables }
        fun other member => shown other (by simp [member])
      refine ⟨own ++ sharingErrors named event.name ++ others,
        by simp [eventsErrors, checked, othersChecked], ?_⟩
      intro kind alone
      rw [List.flatMap_cons, ofKind_append, ofKind_append, ofKind_append,
        ofKind_sharingErrors kind alone, List.append_nil]
      exact (ownReported kind alone).append (othersReported kind alone)

/-- A schema has a list of errors, in which the own errors of its events stand in some order. -/
theorem errors_own (schema : RawSchema) (shown : ShowsTypes schema) :
    ∃ found, errors schema = .ok found ∧
      ∀ kind, kind ≠ .duplicateName →
        (ofKind kind found).Perm (ofKind kind (schema.events.flatMap ownErrors)) := by
  have perm := sortEvents_perm schema.events
  obtain ⟨found, visited, reported⟩ := eventsErrors_own { classes := [], tables := [] }
    (sortEvents schema.events) fun event member => shown event (perm.mem_iff.mp member)
  refine ⟨found, visited, ?_⟩
  intro kind alone
  exact (reported kind alone).trans ((perm.flatMap_right _).filter _)

/-- An error for each name of an event that is not usable: its own and those of its fields. -/
def nameErrors (event : RawEvent) : List SchemaError :=
  (if Identifier.isUsable event.name then [] else [.invalidIdentifier event.name none]) ++
    (event.typeMapping.filter fun field => !Identifier.isUsable field.1).map fun field =>
      .invalidIdentifier event.name (some field.1)

/-- An error for each field with a usable name whose type is not registered. -/
def unknownTypeErrors (event : RawEvent) : List SchemaError :=
  (event.typeMapping.filter fun field =>
    Identifier.isUsable field.1 && !ScalarType.isRegistered field.2).map fun field =>
      .unknownType event.name field.1 field.2.plain

/-- Reporting the items that satisfy a condition is reporting those that a filter leaves. -/
theorem flatMap_ite {Item : Type} (items : List Item) (condition : Item → Bool)
    (reported : Item → SchemaError) :
    (items.flatMap fun item => if condition item then [reported item] else []) =
      (items.filter condition).map reported := by
  induction items with
  | nil => rfl
  | cons item items ih =>
      rw [List.flatMap_cons, ih, List.filter_cons]
      cases condition item <;> rfl

theorem ofKind_invalidIdentifier_ownErrors (event : RawEvent) :
    ofKind .invalidIdentifier (ownErrors event) = nameErrors event := by
  have own : (fun field => ofKind .invalidIdentifier (ownFieldErrors event.name field)) =
      fun field => if !Identifier.isUsable field.1
        then [.invalidIdentifier event.name (some field.1)] else [] := by
    funext field
    cases usable : Identifier.isUsable field.1 <;>
      cases registered : ScalarType.isRegistered field.2 <;>
      simp [ownFieldErrors, ofKind, SchemaError.kind, usable, registered]
  rw [ownErrors, nameErrors, ofKind_append, ofKind_append, ofKind_flatMap, own, flatMap_ite]
  cases Identifier.isUsable event.name <;> cases (event.typeMapping.get? timeName).isSome <;>
    simp [ofKind, SchemaError.kind]

theorem ofKind_unknownType_ownErrors (event : RawEvent) :
    ofKind .unknownType (ownErrors event) = unknownTypeErrors event := by
  have own : (fun field => ofKind .unknownType (ownFieldErrors event.name field)) =
      fun field => if Identifier.isUsable field.1 && !ScalarType.isRegistered field.2
        then [.unknownType event.name field.1 field.2.plain] else [] := by
    funext field
    cases usable : Identifier.isUsable field.1 <;>
      cases registered : ScalarType.isRegistered field.2 <;>
      simp [ownFieldErrors, ofKind, SchemaError.kind, usable, registered]
  rw [ownErrors, unknownTypeErrors, ofKind_append, ofKind_append, ofKind_flatMap, own, flatMap_ite]
  cases Identifier.isUsable event.name <;> cases (event.typeMapping.get? timeName).isSome <;>
    simp [ofKind, SchemaError.kind]

theorem ofKind_missingTimeField_ownErrors (event : RawEvent) :
    ofKind .missingTimeField (ownErrors event) =
      if (event.typeMapping.get? timeName).isSome then [] else [.missingTime event.name] := by
  have own : (fun field => ofKind .missingTimeField (ownFieldErrors event.name field)) =
      fun _ => [] := by
    funext field
    cases usable : Identifier.isUsable field.1 <;>
      cases registered : ScalarType.isRegistered field.2 <;>
      simp [ownFieldErrors, ofKind, SchemaError.kind, usable, registered]
  rw [ownErrors, ofKind_append, ofKind_append, ofKind_flatMap, own]
  cases Identifier.isUsable event.name <;> cases (event.typeMapping.get? timeName).isSome <;>
    simp [ofKind, SchemaError.kind]

/-- What the list of the errors of a schema says. -/
structure Describes (schema : RawSchema) (found : List SchemaError) : Prop where
  /-- It is empty exactly for the schemas that are to be accepted. -/
  empty : found = [] ↔ Accepts schema
  /-- It has one error for each name that is not usable. -/
  names : (ofKind .invalidIdentifier found).Perm (schema.events.flatMap nameErrors)
  /-- It has one error for each unregistered type of a field with a usable name. -/
  types : (ofKind .unknownType found).Perm (schema.events.flatMap unknownTypeErrors)
  /-- It has one error for each event without a time. -/
  times : (ofKind .missingTimeField found).Perm
    ((schema.events.filter fun event => !event.typeMapping.any fun field => field.1 = timeName).map
      fun event => .missingTime event.name)
  /-- Validation accepts the schema if the list is empty. -/
  accepted : found = [] → ∃ valid, validate schema = .ok { raw := schema, valid }
  /-- Validation raises the first error of the list. -/
  refused : ∀ error others, found = error :: others → validate schema = .error (.schema error)

theorem get?_timeName_isSome (fields : Fields Document) :
    (fields.get? timeName).isSome = fields.any fun field => field.1 = timeName := by
  rw [Bool.eq_iff_iff, Fields.get?_isSome_iff, List.any_eq_true]
  simp

/-- The errors of a schema whose unregistered types can be shown. -/
theorem errors_describe (schema : RawSchema) (shown : ShowsTypes schema) :
    ∃ found, errors schema = .ok found ∧ Describes schema found := by
  obtain ⟨found, visited, reported⟩ := errors_own schema shown
  refine ⟨found, visited, ?_⟩
  have names := reported .invalidIdentifier (by decide)
  have types := reported .unknownType (by decide)
  have times := reported .missingTimeField (by decide)
  rw [ofKind_flatMap] at names types times
  simp only [ofKind_invalidIdentifier_ownErrors] at names
  simp only [ofKind_unknownType_ownErrors] at types
  have timed : (fun event => ofKind .missingTimeField (ownErrors event)) = fun event =>
      if !event.typeMapping.any fun field => field.1 = timeName
        then [.missingTime event.name] else [] := by
    funext event
    rw [ofKind_missingTimeField_ownErrors, get?_timeName_isSome]
    cases event.typeMapping.any fun field => field.1 = timeName <;> rfl
  rw [timed, flatMap_ite] at times
  exact {
    empty := by rw [← errors_eq_nil_iff, visited, Except.ok.injEq]
    names, types, times
    accepted := by
      rintro rfl
      exact ⟨visited, validate_of_errors_nil schema visited⟩
    refused := by
      rintro error others rfl
      exact validate_of_errors_cons schema error others visited }

/-- A schema with an error of each kind that is found whatever else is wrong. -/
def faultySchema : RawSchema :=
  { events := [{ name := "log in", typeLabel := [],
                 typeMapping := [("user id", .text "int"), ("device", .text "text")] }]
    path := none }

theorem faultySchema_described : ShowsTypes faultySchema ∧
    ∃ found, errors faultySchema = .ok found ∧ Describes faultySchema found := by
  have shown : ShowsTypes faultySchema := by
    intro event eventMember field fieldMember _ _
    obtain rfl : event = _ := by simpa [faultySchema] using eventMember
    obtain rfl | rfl : field = _ ∨ field = _ := by simpa using fieldMember
    · rfl
    · rfl
  exact ⟨shown, errors_describe faultySchema shown⟩

/-- An integer of more than 4300 digits. -/
def hiddenType : Document := .integer (Int.pow 16 3600)

theorem isDisplayable_hiddenType : hiddenType.isDisplayable = false := by
  have long : (10 ^ 43) ^ 100 ≤ (16 ^ 36) ^ 100 := Nat.pow_le_pow_left (by decide) 100
  rw [← Nat.pow_mul, ← Nat.pow_mul] at long
  have tooLong : tenTo 4300 ≤ (Int.pow 16 3600).natAbs :=
    Nat.le_trans long (Nat.le_of_eq (Int.natAbs_pow 16 3600).symm)
  simp only [hiddenType, Document.isDisplayable, Document.anyInteger, tooLong, decide_true,
    Bool.not_true]

/-- A document whose only field has a type that cannot be shown. -/
def hiddenTypeDocument : Document :=
  .mapping [(.text "login", .mapping [(.text "type_mapping", .mapping
    [(.text "idx_size", hiddenType)])])]

def hiddenTypeSchema : RawSchema :=
  { events := [{ name := "login", typeLabel := [], typeMapping := [("idx_size", hiddenType)] }]
    path := none }

/-- A type that cannot be shown leaves a schema without a list of errors. -/
theorem hiddenTypeDocument_unlisted :
    Source.parse hiddenTypeDocument none = .ok hiddenTypeSchema ∧
      (¬ ∃ found, errors hiddenTypeSchema = .ok found) ∧
      validate hiddenTypeSchema = .error (.display {}) := by
  have usable : Identifier.isUsable ("idx_size" : Text) = true :=
    Identifier.isUsable_idx "size" (List.all_eq_true.mp rfl)
  have unregistered : ScalarType.isRegistered hiddenType = false := rfl
  have visited : errors hiddenTypeSchema = .error {} := by
    simp [errors, sortEvents, eventsErrors, eventErrors, sortFields, fieldsErrors, fieldErrors,
      typeErrors, hiddenTypeSchema, usable, unregistered, Document.plain?,
      isDisplayable_hiddenType]
  refine ⟨?_, ?_, validate_of_errors_fault _ _ visited⟩
  · rfl
  · rw [visited]
    simp

end EventForge.Validation
