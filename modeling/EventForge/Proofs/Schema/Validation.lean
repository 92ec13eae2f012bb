import EventForge.Proofs.Document.Basic
import EventForge.Proofs.Outcome
import EventForge.Proofs.Schema.Identifier
import EventForge.Schema.Validation

/-!
# What validation accepts

A schema has no error exactly if its names are usable, its types are registered, every event has a
time, and no two names share an attribute, a column, a class or a table.
-/

namespace EventForge

namespace Validation

/-- What an accepted event satisfies. -/
structure AcceptsEvent (event : RawEvent) : Prop where
  nameUsable : Identifier.isUsable event.name = true
  fieldsUsable : ∀ field ∈ event.typeMapping, Identifier.isUsable field.1 = true
  typesRegistered : ∀ field ∈ event.typeMapping, ScalarType.isRegistered field.2 = true
  hasTime : ∃ field ∈ event.typeMapping, field.1 = timeName
  creationFree : ∀ field ∈ event.typeMapping, field.1 ≠ Entity.creationColumn ∧
    Identifier.attributeName field.1 ≠ Entity.creationColumn ∧
    field.1.fold ≠ Entity.creationColumn
  attributesDistinct : (event.typeMapping.map fun field => Identifier.attributeName field.1).Nodup
  columnsDistinct : (event.typeMapping.map fun field => field.1.fold).Nodup

/-- What an accepted schema satisfies. -/
structure Accepts (schema : RawSchema) : Prop where
  events : ∀ event ∈ schema.events, AcceptsEvent event
  classesDistinct : (schema.events.map fun event => Identifier.camelCase event.name).Nodup
  tablesDistinct : (schema.events.map fun event => event.name.fold).Nodup

theorem sortFields_perm (fields : Fields Document) : (sortFields fields).Perm fields :=
  List.mergeSort_perm fields _

@[simp] theorem sortFields_singleton (field : Text × Document) : sortFields [field] = [field] :=
  List.mergeSort_singleton _

theorem sortEvents_perm (events : List RawEvent) : (sortEvents events).Perm events :=
  List.mergeSort_perm events _

theorem attributeName_timeName : Identifier.attributeName timeName = timeName := by decide

theorem attributeName_creationColumn :
    Identifier.attributeName Entity.creationColumn = Entity.creationColumn := by decide

/-- An event that has a time alone is accepted for its name. -/
theorem acceptsEvent_alone (event : RawEvent) (type : Document)
    (alone : event.typeMapping = [(timeName, type)])
    (usable : Identifier.isUsable event.name = true)
    (registered : ScalarType.isRegistered type = true) : AcceptsEvent event := by
  have apart : timeName ≠ Entity.creationColumn := by decide
  have folded : timeName.fold = timeName := by decide
  refine ⟨usable, ?_, ?_, ?_, ?_, ?_, ?_⟩ <;> rw [alone]
  · intro field member
    rw [List.mem_singleton.mp member]
    exact Identifier.isUsable_time
  · intro field member
    rw [List.mem_singleton.mp member]
    exact registered
  · exact ⟨_, List.mem_singleton.mpr rfl, rfl⟩
  · intro field member
    rw [List.mem_singleton.mp member, attributeName_timeName, folded]
    exact ⟨apart, apart, apart⟩
  · simp
  · simp

/-- What is occupied after a field without errors. -/
def Taken.adding (taken : Taken) (name : Text) : Taken :=
  { attributes := Fields.insert (Identifier.attributeName name) name taken.attributes
    columns := Fields.insert name.fold name taken.columns }

/-- Whether a field is free of errors next to what is occupied. -/
structure FreeField (taken : Taken) (field : Text × Document) : Prop where
  usable : Identifier.isUsable field.1 = true
  registered : ScalarType.isRegistered field.2 = true
  declared : field.1 ≠ Entity.creationColumn
  attributeDeclared : Identifier.attributeName field.1 ≠ Entity.creationColumn
  attributeFree : taken.attributes.get? (Identifier.attributeName field.1) = none
  columnFree : taken.columns.get? field.1.fold = none

theorem typeErrors_eq_nil_iff (event name : Text) (type : Document) :
    typeErrors event name type = .ok [] ↔ ScalarType.isRegistered type = true := by
  unfold typeErrors
  cases ScalarType.isRegistered type with
  | true => simp
  | false => cases type.plain? <;> simp

theorem placeErrors_eq_nil_iff (event : Text) (taken : Taken) (name : Text) :
    (placeErrors event taken name).1 = [] ↔
      name ≠ Entity.creationColumn ∧ Identifier.attributeName name ≠ Entity.creationColumn ∧
        taken.attributes.get? (Identifier.attributeName name) = none ∧
        taken.columns.get? name.fold = none := by
  unfold placeErrors
  by_cases declared : name = Entity.creationColumn
  · simp [declared]
  · cases own : taken.attributes.get? (Identifier.attributeName name) with
    | some other => simp [declared, own]
    | none =>
        by_cases attributeDeclared : Identifier.attributeName name = Entity.creationColumn
        · simp [declared, attributeDeclared] at own ⊢
          simp [own]
        · cases column : taken.columns.get? name.fold <;>
            simp [declared, own, attributeDeclared, column]

theorem placeErrors_snd (event : Text) (taken : Taken) (name : Text)
    (free : (placeErrors event taken name).1 = []) :
    (placeErrors event taken name).2 = taken.adding name := by
  obtain ⟨declared, attributeDeclared, own, column⟩ :=
    (placeErrors_eq_nil_iff event taken name).mp free
  simp [placeErrors, declared, attributeDeclared, own, column, Taken.adding]

theorem fieldErrors_eq_nil_iff (event : Text) (taken after : Taken) (field : Text × Document) :
    fieldErrors event taken field.1 field.2 = .ok ([], after) ↔
      FreeField taken field ∧ after = taken.adding field.1 := by
  unfold fieldErrors
  cases usable : Identifier.isUsable field.1 with
  | false =>
      simp only [Bool.not_false, if_true, Outcome.pure_eq_ok, Except.ok.injEq, Prod.mk.injEq,
        List.cons_ne_nil, false_and, false_iff, not_and]
      intro free
      exact absurd free.usable (by simp [usable])
  | true =>
      simp only [Bool.not_true, Bool.false_eq_true, if_false, Outcome.bind_eq_ok_iff,
        Outcome.pure_eq_ok, Except.ok.injEq, Prod.mk.injEq, List.append_eq_nil_iff]
      constructor
      · rintro ⟨typed, typeChecked, ⟨rfl, placed⟩, rfl⟩
        have registered := (typeErrors_eq_nil_iff _ _ _).mp typeChecked
        obtain ⟨declared, attributeDeclared, attributeFree, columnFree⟩ :=
          (placeErrors_eq_nil_iff _ _ _).mp placed
        exact ⟨⟨usable, registered, declared, attributeDeclared, attributeFree, columnFree⟩,
          placeErrors_snd event taken field.1 placed⟩
      · rintro ⟨free, rfl⟩
        have placed := (placeErrors_eq_nil_iff event taken field.1).mpr
          ⟨free.declared, free.attributeDeclared, free.attributeFree, free.columnFree⟩
        exact ⟨[], (typeErrors_eq_nil_iff _ _ _).mpr free.registered, ⟨rfl, placed⟩,
          placeErrors_snd event taken field.1 placed⟩

theorem fieldsErrors_cons_eq_nil_iff (event : Text) (taken : Taken) (field : Text × Document)
    (fields : Fields Document) :
    fieldsErrors event taken (field :: fields) = .ok [] ↔
      FreeField taken field ∧ fieldsErrors event (taken.adding field.1) fields = .ok [] := by
  obtain ⟨name, type⟩ := field
  simp only [fieldsErrors, Outcome.bind_eq_ok_iff, Outcome.pure_eq_ok, Except.ok.injEq,
    List.append_eq_nil_iff]
  constructor
  · rintro ⟨⟨errors, after⟩, checked, others, othersChecked, rfl, rfl⟩
    obtain ⟨free, rfl⟩ := (fieldErrors_eq_nil_iff event taken after (name, type)).mp checked
    exact ⟨free, othersChecked⟩
  · rintro ⟨free, othersChecked⟩
    exact ⟨([], taken.adding name),
      (fieldErrors_eq_nil_iff event taken _ (name, type)).mpr ⟨free, rfl⟩, [], othersChecked,
      rfl, rfl⟩

/-- After a field without errors exactly the fields with another attribute and another column are
free. -/
theorem freeField_adding_iff (taken : Taken) (name : Text) (field : Text × Document) :
    FreeField (taken.adding name) field ↔
      FreeField taken field ∧
        Identifier.attributeName name ≠ Identifier.attributeName field.1 ∧
        name.fold ≠ field.1.fold := by
  constructor
  · rintro ⟨usable, registered, declared, attributeDeclared, attributeFree, columnFree⟩
    simp only [Taken.adding, Fields.get?_insert] at attributeFree columnFree
    by_cases sameAttribute : Identifier.attributeName name = Identifier.attributeName field.1
    · simp [sameAttribute] at attributeFree
    · by_cases sameColumn : name.fold = field.1.fold
      · simp [sameColumn] at columnFree
      · rw [if_neg sameAttribute] at attributeFree
        rw [if_neg sameColumn] at columnFree
        exact ⟨⟨usable, registered, declared, attributeDeclared, attributeFree, columnFree⟩,
          sameAttribute, sameColumn⟩
  · rintro ⟨free, otherAttribute, otherColumn⟩
    refine ⟨free.usable, free.registered, free.declared, free.attributeDeclared, ?_, ?_⟩
    · rw [Taken.adding, Fields.get?_insert, if_neg otherAttribute]
      exact free.attributeFree
    · rw [Taken.adding, Fields.get?_insert, if_neg otherColumn]
      exact free.columnFree

/-- Fields have no error if each of them is free and no two share an attribute or a column. -/
theorem fieldsErrors_eq_nil_iff (event : Text) (taken : Taken) (fields : Fields Document) :
    fieldsErrors event taken fields = .ok [] ↔
      (∀ field ∈ fields, FreeField taken field) ∧
        (fields.map fun field => Identifier.attributeName field.1).Nodup ∧
        (fields.map fun field => field.1.fold).Nodup := by
  induction fields generalizing taken with
  | nil => simp [fieldsErrors]
  | cons field fields ih =>
      rw [fieldsErrors_cons_eq_nil_iff, ih]
      simp only [freeField_adding_iff, List.map_cons, List.nodup_cons, List.mem_map,
        List.forall_mem_cons, not_exists, not_and]
      constructor
      · rintro ⟨free, others, attributes, columns⟩
        exact ⟨⟨free, fun other member => (others other member).1⟩,
          ⟨fun other member same => (others other member).2.1 same.symm, attributes⟩,
          ⟨fun other member same => (others other member).2.2 same.symm, columns⟩⟩
      · rintro ⟨⟨free, others⟩, ⟨ownAttribute, attributes⟩, ⟨ownColumn, columns⟩⟩
        exact ⟨free,
          fun other member => ⟨others other member,
            fun same => ownAttribute other member same.symm,
            fun same => ownColumn other member same.symm⟩,
          attributes, columns⟩

theorem freeField_initial_iff (field : Text × Document) :
    FreeField Taken.initial field ↔
      Identifier.isUsable field.1 = true ∧ ScalarType.isRegistered field.2 = true ∧
        field.1 ≠ Entity.creationColumn ∧
        Identifier.attributeName field.1 ≠ Entity.creationColumn ∧
        field.1.fold ≠ Entity.creationColumn := by
  have column : Taken.initial.columns.get? field.1.fold = none ↔
      field.1.fold ≠ Entity.creationColumn := by
    simp [Taken.initial, Fields.get?_cons, eq_comm]
  constructor
  · rintro ⟨usable, registered, declared, attributeDeclared, _, columnFree⟩
    exact ⟨usable, registered, declared, attributeDeclared, column.mp columnFree⟩
  · rintro ⟨usable, registered, declared, attributeDeclared, columnFree⟩
    exact ⟨usable, registered, declared, attributeDeclared, rfl, column.mpr columnFree⟩

theorem eventErrors_eq_nil_iff (event : RawEvent) :
    eventErrors event = .ok [] ↔ AcceptsEvent event := by
  have perm := sortFields_perm event.typeMapping
  simp only [eventErrors, Outcome.bind_eq_ok_iff, Outcome.pure_eq_ok, Except.ok.injEq,
    List.append_eq_nil_iff]
  constructor
  · rintro ⟨fields, checked, ⟨named, rfl⟩, timed⟩
    obtain ⟨free, attributes, columns⟩ := (fieldsErrors_eq_nil_iff _ _ _).mp checked
    have free : ∀ field ∈ event.typeMapping, _ :=
      fun field member => (freeField_initial_iff field).mp (free field (perm.mem_iff.mpr member))
    have hasTime : (event.typeMapping.get? timeName).isSome = true := by
      simpa [Option.isSome_iff_ne_none] using timed
    exact {
      nameUsable := by simpa using named
      fieldsUsable := fun field member => (free field member).1
      typesRegistered := fun field member => (free field member).2.1
      hasTime := (Fields.get?_isSome_iff _ _).mp hasTime
      creationFree := fun field member => (free field member).2.2
      attributesDistinct := (perm.map _).nodup_iff.mp attributes
      columnsDistinct := (perm.map _).nodup_iff.mp columns }
  · intro accepted
    refine ⟨[], (fieldsErrors_eq_nil_iff _ _ _).mpr ⟨?_, ?_, ?_⟩, ⟨?_, rfl⟩, ?_⟩
    · intro field member
      have member := perm.mem_iff.mp member
      exact (freeField_initial_iff field).mpr ⟨accepted.fieldsUsable field member,
        accepted.typesRegistered field member, accepted.creationFree field member⟩
    · exact (perm.map _).nodup_iff.mpr accepted.attributesDistinct
    · exact (perm.map _).nodup_iff.mpr accepted.columnsDistinct
    · rw [if_pos accepted.nameUsable]
    · rw [if_pos ((Fields.get?_isSome_iff _ _).mpr accepted.hasTime)]

theorem get?_occupy_eq_none_iff (name owner other : Text) (names : Fields Text) :
    (occupy name owner names).get? other = none ↔ names.get? other = none ∧ name ≠ other := by
  unfold occupy
  cases found : names.get? name with
  | some taken =>
      have apart : names.get? other = none → name ≠ other := by
        rintro free rfl
        simp [found] at free
      simpa using apart
  | none => simp [Fields.get?_append, Fields.get?_cons]

theorem sharingErrors_eq_nil_iff (named : Named) (event : Text) :
    sharingErrors named event = [] ↔
      named.classes.get? (Identifier.camelCase event) = none ∧
        named.tables.get? event.fold = none := by
  simp only [sharingErrors]
  cases named.classes.get? (Identifier.camelCase event) <;>
    cases named.tables.get? event.fold <;> simp

theorem eventsErrors_eq_nil_iff (named : Named) (events : List RawEvent) :
    eventsErrors named events = .ok [] ↔
      (∀ event ∈ events, AcceptsEvent event ∧ sharingErrors named event.name = []) ∧
        (events.map fun event => Identifier.camelCase event.name).Nodup ∧
        (events.map fun event => event.name.fold).Nodup := by
  induction events generalizing named with
  | nil => simp [eventsErrors]
  | cons event events ih =>
      simp only [eventsErrors, Outcome.bind_eq_ok_iff, Outcome.pure_eq_ok, Except.ok.injEq,
        List.append_eq_nil_iff, List.map_cons, List.nodup_cons, List.mem_map,
        List.forall_mem_cons, not_exists, not_and]
      constructor
      · rintro ⟨own, ownChecked, others, othersChecked, ⟨rfl, unshared⟩, rfl⟩
        obtain ⟨accepted, classes, tables⟩ := (ih _).mp othersChecked
        simp only [sharingErrors_eq_nil_iff, get?_occupy_eq_none_iff] at accepted
        refine ⟨⟨⟨(eventErrors_eq_nil_iff event).mp ownChecked, unshared⟩, ?_⟩,
          ⟨?_, classes⟩, ⟨?_, tables⟩⟩
        · intro other member
          obtain ⟨acceptedOther, ⟨classFree, _⟩, ⟨tableFree, _⟩⟩ := accepted other member
          exact ⟨acceptedOther, (sharingErrors_eq_nil_iff _ _).mpr ⟨classFree, tableFree⟩⟩
        · exact fun other member same => (accepted other member).2.1.2 same.symm
        · exact fun other member same => (accepted other member).2.2.2 same.symm
      · rintro ⟨⟨⟨accepted, unshared⟩, others⟩, ⟨ownClass, classes⟩, ⟨ownTable, tables⟩⟩
        refine ⟨[], (eventErrors_eq_nil_iff event).mpr accepted, [],
          (ih _).mpr ⟨?_, classes, tables⟩, ⟨rfl, unshared⟩, rfl⟩
        intro other member
        obtain ⟨acceptedOther, unsharedOther⟩ := others other member
        obtain ⟨classFree, tableFree⟩ := (sharingErrors_eq_nil_iff _ _).mp unsharedOther
        refine ⟨acceptedOther, (sharingErrors_eq_nil_iff _ _).mpr ⟨?_, ?_⟩⟩
        · exact (get?_occupy_eq_none_iff _ _ _ _).mpr
            ⟨classFree, fun same => ownClass other member same.symm⟩
        · exact (get?_occupy_eq_none_iff _ _ _ _).mpr
            ⟨tableFree, fun same => ownTable other member same.symm⟩

/-- Validation finds no error exactly in the schemas that it is meant to accept. -/
theorem errors_eq_nil_iff (schema : RawSchema) : errors schema = .ok [] ↔ Accepts schema := by
  have perm := sortEvents_perm schema.events
  rw [errors, eventsErrors_eq_nil_iff]
  constructor
  · rintro ⟨accepted, classes, tables⟩
    exact ⟨fun event member => (accepted event (perm.mem_iff.mpr member)).1,
      (perm.map _).nodup_iff.mp classes, (perm.map _).nodup_iff.mp tables⟩
  · intro accepted
    refine ⟨fun event member => ⟨accepted.events event (perm.mem_iff.mp member), rfl⟩,
      (perm.map _).nodup_iff.mpr accepted.classesDistinct,
      (perm.map _).nodup_iff.mpr accepted.tablesDistinct⟩

/-- Types that can be shown do not end the visit of fields. -/
theorem fieldsErrors_ok (event : Text) (taken : Taken) (fields : Fields Document)
    (shown : ∀ field ∈ fields, field.2.isDisplayable = true) :
    ∃ found, fieldsErrors event taken fields = .ok found := by
  induction fields generalizing taken with
  | nil => exact ⟨[], rfl⟩
  | cons field fields ih =>
      obtain ⟨name, type⟩ := field
      have checked : ∃ found after, fieldErrors event taken name type = .ok (found, after) := by
        have typeShown := Document.plain?_of_isDisplayable type (shown (name, type) (by simp))
        simp only [fieldErrors, typeErrors, typeShown]
        cases Identifier.isUsable name with
        | false => exact ⟨_, _, rfl⟩
        | true => cases ScalarType.isRegistered type <;> exact ⟨_, _, rfl⟩
      obtain ⟨found, after, checked⟩ := checked
      obtain ⟨others, othersChecked⟩ := ih after fun other member => shown other (by simp [member])
      exact ⟨found ++ others, by simp [fieldsErrors, checked, othersChecked]⟩

theorem eventsErrors_ok (named : Named) (events : List RawEvent)
    (shown : ∀ event ∈ events, ∀ field ∈ event.typeMapping, field.2.isDisplayable = true) :
    ∃ found, eventsErrors named events = .ok found := by
  induction events generalizing named with
  | nil => exact ⟨[], rfl⟩
  | cons event events ih =>
      have eventShown := shown event (by simp)
      obtain ⟨fields, checked⟩ := fieldsErrors_ok event.name Taken.initial
        (sortFields event.typeMapping) fun field member =>
          eventShown field ((sortFields_perm _).mem_iff.mp member)
      simp only [eventsErrors, eventErrors, checked, Outcome.ok_bind, Outcome.pure_eq_ok]
      obtain ⟨others, othersChecked⟩ := ih
        { classes := occupy (Identifier.camelCase event.name) event.name named.classes
          tables := occupy event.name.fold event.name named.tables }
        fun other member => shown other (by simp [member])
      rw [othersChecked]
      exact ⟨_, rfl⟩

/-- A schema whose types can be shown is accepted or has errors. -/
theorem errors_ok (schema : RawSchema)
    (shown : ∀ event ∈ schema.events, ∀ field ∈ event.typeMapping,
      field.2.isDisplayable = true) :
    ∃ found, errors schema = .ok found :=
  eventsErrors_ok _ _ fun event member =>
    shown event ((sortEvents_perm _).mem_iff.mp member)

theorem validate_of_errors_nil (schema : RawSchema) (valid : errors schema = .ok []) :
    validate schema = .ok { raw := schema, valid } := by
  unfold validate
  split
  · rfl
  · rename_i found; rw [valid] at found; cases found
  · rename_i found; rw [valid] at found; cases found

/-- A schema with errors is refused with the first. -/
theorem validate_of_errors_cons (schema : RawSchema) (error : SchemaError)
    (others : List SchemaError) (found : errors schema = .ok (error :: others)) :
    validate schema = .error (.schema error) := by
  unfold validate
  split
  · rename_i clean; rw [found] at clean; cases clean
  · rename_i first; rw [found] at first; cases first; rfl
  · rename_i hidden; rw [found] at hidden; cases hidden

theorem validate_of_errors_fault (schema : RawSchema) (fault : Document.DisplayFault)
    (hidden : errors schema = .error fault) : validate schema = .error (.display fault) := by
  unfold validate
  split
  · rename_i clean; rw [hidden] at clean; cases clean
  · rename_i first; rw [hidden] at first; cases first
  · rename_i found; rw [hidden] at found

end Validation

end EventForge
