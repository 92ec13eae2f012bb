import EventForge.Proofs.Module.Loading
import EventForge.Proofs.Module.OfSchema
import EventForge.Proofs.Store.MigrationRun

/-!
# Migrating an empty database

The tables of a module share one space of names with the indexes on their times and with the tables
that every database provides.  A module that loads is migrated from an empty database exactly if the
names of its events stay clear of both.
-/

/-!
## The targets of a compiled schema

The event classes of an accepted schema with plain names can be migrated together: their columns
differ, they have their time and the time of their creation, and no two tables have the same name.
-/

namespace EventForge

namespace Compilation

theorem distinctColumns_entityOf (event : RawEvent) (accepted : Validation.AcceptsEvent event) :
    DistinctColumns (entityOf event).columnDefinitions := by
  rw [DistinctColumns, Entity.columnDefinitions, List.map_map]
  exact columns_fieldsOf_nodup event accepted

end Compilation

namespace Migration

open Compilation

/-- The target of an accepted event. -/
theorem ofClass_classOf (event : RawEvent) (accepted : Validation.AcceptsEvent event) :
    Target.ofClass (classOf event) =
      { table := event.name, columns := (entityOf event).columnDefinitions
        timeColumn := timeName } := by
  rw [← timeColumn_entityOf event accepted]
  rfl

theorem isColumnType_columnType (scalar : ScalarType) :
    SqlToken.IsColumnType scalar.columnType := by
  cases scalar <;> simp [SqlToken.IsColumnType, ScalarType.columnType]

theorem isName_created : IsName "created_at" := ⟨by decide, Identifier.isUsable_created_at⟩

theorem isProper_ofClass (event : RawEvent) (accepted : Validation.AcceptsEvent event)
    (plain : Identifier.isPlain event.name = true)
    (fieldsPlain : ∀ field ∈ event.typeMapping, Identifier.isPlain field.1 = true) :
    (Target.ofClass (classOf event)).IsProper := by
  have perm := Validation.sortFields_perm event.typeMapping
  have every : ∀ column ∈ (entityOf event).columnDefinitions,
      IsName column.1 ∧ SqlToken.IsColumnType column.2 := by
    intro column member
    rw [columnDefinitions_entityOf] at member
    rcases List.mem_append.mp member with declared | creation
    · obtain ⟨field, sorted, rfl⟩ := List.mem_map.mp declared
      have fieldMember := perm.mem_iff.mp sorted
      exact ⟨⟨fieldsPlain field fieldMember, accepted.fieldsUsable field fieldMember⟩,
        isColumnType_columnType _⟩
    · rw [List.mem_singleton.mp creation]
      exact ⟨isName_created, isColumnType_columnType .timestamp⟩
  rw [ofClass_classOf event accepted]
  refine ⟨⟨⟨plain, accepted.nameUsable⟩, ?_, fun column member => (every column member).1,
    fun column member => (every column member).2, isName_time⟩,
    distinctColumns_entityOf event accepted, ?_⟩
  · rw [columnDefinitions_entityOf]
    simp
  · obtain ⟨field, member, named⟩ := accepted.hasTime
    refine ⟨(field.1, (scalarOf field.2).columnType), ?_, named⟩
    rw [columnDefinitions_entityOf]
    exact List.mem_append_left _ (List.mem_map.mpr ⟨field, perm.mem_iff.mpr member, rfl⟩)

/-- The targets of an accepted schema with plain names. -/
theorem isPlan_moduleOf (schema : RawSchema) (sourcePath : Option Text)
    (accepted : Validation.Accepts schema) (plain : schema.HasPlainNames) :
    IsPlan ((moduleOf schema sourcePath).classes.map Target.ofClass) := by
  have perm := Validation.sortEvents_perm schema.events
  have every : ∀ target ∈ (moduleOf schema sourcePath).classes.map Target.ofClass,
      ∃ event ∈ schema.events, target = Target.ofClass (classOf event) := by
    intro target member
    rw [classes_moduleOf, List.map_map] at member
    obtain ⟨event, sorted, rfl⟩ := List.mem_map.mp member
    exact ⟨event, perm.mem_iff.mp sorted, rfl⟩
  constructor
  · intro target member
    obtain ⟨event, eventMember, rfl⟩ := every target member
    exact isProper_ofClass event (accepted.events event eventMember)
      (plain.events event eventMember) (plain.fields event eventMember)
  · intro target member
    obtain ⟨event, eventMember, rfl⟩ := every target member
    rw [ofClass_classOf event (accepted.events event eventMember)]
    rfl
  · intro target member
    obtain ⟨event, eventMember, rfl⟩ := every target member
    rw [ofClass_classOf event (accepted.events event eventMember)]
    refine ⟨(Entity.creationColumn, ScalarType.timestamp.columnType), ?_, rfl⟩
    simp [columnDefinitions_entityOf]
  · have tables := accepted.tablesDistinct
    have lowered : ∀ event ∈ schema.events, event.name.toAsciiLower = event.name.fold :=
      fun event member => (Text.fold_ascii _
        (Identifier.isAscii_of_isUsable _ (accepted.events event member).nameUsable)).symm
    rw [← List.map_congr_left lowered] at tables
    rw [classes_moduleOf, List.map_map, List.map_map]
    exact (perm.map _).nodup_iff.mpr tables

end Migration

/-!
## Free names
-/

/-- Whether no event has the name of an index on the time of an event, or of a provided table. -/
structure RawSchema.HasFreeNames (schema : RawSchema) : Prop where
  apart : ∀ first ∈ schema.events, ∀ second ∈ schema.events,
    sameName first.name (("idx_" : Text) ++ second.name ++ "_time") = false
  provided : ∀ event ∈ schema.events, Database.virtual? event.name = none

namespace Migration

open Compilation

/-- A schema whose module loads has plain names. -/
theorem hasPlainNames_of_loads (schema : RawSchema) (sourcePath : Option Text)
    (accepted : Validation.Accepts schema) (session : ScriptState) (reference path : Text)
    (loads : (moduleOf schema sourcePath).Loads session reference path) : schema.HasPlainNames := by
  by_cases empty : schema.events = []
  · constructor <;> simp [empty]
  · exact (isLoadable_of_loads schema sourcePath accepted empty session reference path loads).plain

section Schema

variable (schema : RawSchema) (sourcePath : Option Text) (accepted : Validation.Accepts schema)

include accepted

theorem isDisjoint_moduleOf_iff :
    IsDisjoint ((moduleOf schema sourcePath).classes.map Target.ofClass) ↔
      schema.HasFreeNames := by
  have target_of : ∀ event ∈ schema.events, Target.ofClass (classOf event) =
      { table := event.name, columns := (entityOf event).columnDefinitions
        timeColumn := timeName } :=
    fun event member => ofClass_classOf event (accepted.events event member)
  have targets : ∀ target, target ∈ (moduleOf schema sourcePath).classes.map Target.ofClass ↔
      ∃ event ∈ schema.events, target = Target.ofClass (classOf event) := by
    intro target
    rw [List.mem_map]
    constructor
    · rintro ⟨eventClass, member, rfl⟩
      obtain ⟨event, eventMember, rfl⟩ := (mem_classes_moduleOf schema sourcePath _).mp member
      exact ⟨event, eventMember, rfl⟩
    · rintro ⟨event, eventMember, rfl⟩
      exact ⟨_, (mem_classes_moduleOf schema sourcePath _).mpr ⟨event, eventMember, rfl⟩, rfl⟩
  constructor
  · intro disjoint
    constructor
    · intro first firstMember second secondMember
      have apart := disjoint.apart _ ((targets _).mpr ⟨first, firstMember, rfl⟩) _
        ((targets _).mpr ⟨second, secondMember, rfl⟩)
      rw [target_of first firstMember, target_of second secondMember, indexName_eq] at apart
      exact apart
    · intro event member
      have provided := disjoint.provided _ ((targets _).mpr ⟨event, member, rfl⟩)
      rwa [target_of event member] at provided
  · intro free
    constructor
    · intro target member other otherMember
      obtain ⟨first, firstMember, rfl⟩ := (targets target).mp member
      obtain ⟨second, secondMember, rfl⟩ := (targets other).mp otherMember
      rw [target_of first firstMember, target_of second secondMember, indexName_eq]
      exact free.apart first firstMember second secondMember
    · intro target member
      obtain ⟨event, eventMember, rfl⟩ := (targets target).mp member
      rw [target_of event eventMember]
      exact free.provided event eventMember

/-- Migration of an empty database fails for plain names that clash, and only for those. -/
theorem migrate_moduleOf_iff (plain : schema.HasPlainNames) (connection : Connection)
    (ready : connection.IsReady) (empty : Holds connection.database [] fun _ => []) :
    (migrate connection (moduleOf schema sourcePath)).error = none ↔ schema.HasFreeNames := by
  have plan := isPlan_moduleOf schema sourcePath accepted plain
  rw [← isDisjoint_moduleOf_iff schema sourcePath accepted, migrate]
  constructor
  · intro succeeds
    refine Classical.byContradiction fun clash => ?_
    have nothing : IsDisjoint [] := by constructor <;> simp
    exact migrateAll_of_clash [] _ ready plan empty (fun _ _ => rfl) nothing clash succeeds
  · intro disjoint
    obtain ⟨migrated, run, _⟩ := migrateAll_of_isDisjoint [] _ ready plan empty (fun _ _ => rfl)
      disjoint
    rw [run]

end Schema

/-- A module that loads is migrated from an empty database exactly if the names of its events are
free. -/
theorem migrate_empty_iff (schema : RawSchema) (sourcePath : Option Text)
    (compiled : CompiledSchema) (made : compileRaw schema sourcePath = .ok compiled)
    (session : ScriptState) (reference path : Text)
    (loads : (EventModule.ofCompiled compiled).Loads session reference path)
    (connection : Connection) (ready : connection.IsReady)
    (empty : Holds connection.database [] fun _ => []) :
    (migrate connection (EventModule.ofCompiled compiled)).error = none ↔
      schema.HasFreeNames := by
  obtain ⟨accepted, rfl⟩ := of_compileRaw schema sourcePath compiled made
  exact migrate_moduleOf_iff schema sourcePath accepted
    (hasPlainNames_of_loads schema sourcePath accepted session reference path loads) connection ready
    empty

/-- A connection to an empty database. -/
def emptyConnection : Connection := { database := .empty }

theorem hasFreeNames_loginSchema : loginSchema.HasFreeNames := by
  constructor
  · intro first firstMember second secondMember
    obtain rfl := List.mem_singleton.mp firstMember
    obtain rfl := List.mem_singleton.mp secondMember
    decide
  · intro event member
    obtain rfl := List.mem_singleton.mp member
    decide

/-- The schema of one event, whose module loads. -/
theorem compiles_loginSchema :
    compileRaw loginSchema none = .ok (schemaOf loginSchema none) ∧
      (moduleOf loginSchema none).Loads bareSession "events.py" "events.py" :=
  ⟨compileRaw_eq loginSchema none ((Validation.errors_eq_nil_iff _).mpr accepts_loginSchema),
    loads_timedSchema ["login"] (by decide) (by simp) accepts_loginSchema bareSession "events.py"
      "events.py"⟩

theorem mem_classes_loginSchema :
    classOf (timedEvent "login") ∈ (moduleOf loginSchema none).classes :=
  (mem_classes_moduleOf loginSchema none _).mpr ⟨_, List.mem_singleton.mpr rfl, rfl⟩

/-- The module of one event is migrated from an empty database. -/
theorem migrates_loginSchema :
    (migrate emptyConnection (moduleOf loginSchema none)).error = none := by
  have plain := hasPlainNames_of_loads loginSchema none accepts_loginSchema _ _ _
    compiles_loginSchema.2
  exact (migrate_moduleOf_iff loginSchema none accepts_loginSchema plain emptyConnection ⟨rfl, rfl⟩
    (holds_empty _)).mpr hasFreeNames_loginSchema

theorem loginSchema_migrates :
    ∃ compiled, compileRaw loginSchema none = .ok compiled ∧
      (EventModule.ofCompiled compiled).Loads bareSession "events.py" "events.py" ∧
      emptyConnection.IsReady ∧ Holds emptyConnection.database [] (fun _ => []) ∧
      (migrate emptyConnection (EventModule.ofCompiled compiled)).error = none := by
  obtain ⟨made, loads⟩ := compiles_loginSchema
  have ready : emptyConnection.IsReady := ⟨rfl, rfl⟩
  exact ⟨_, made, loads, ready, holds_empty _, (migrate_empty_iff loginSchema none _ made bareSession
    "events.py" "events.py" loads emptyConnection ready (holds_empty _)).mpr
    hasFreeNames_loginSchema⟩

/-- A schema with an event that is called like the index on the time of another one. -/
def clashingSchema : RawSchema := timedSchema ["login", "idx_login_time"]

theorem accepts_clashingSchema : Validation.Accepts clashingSchema := by
  have index : Identifier.isUsable "idx_login_time" = true :=
    Identifier.isUsable_idx "login_time" (List.all_eq_true.mp rfl)
  exact accepts_timedSchema _ (by simp [Identifier.isUsable_login, index]) (by decide) (by decide)

/-- The module of an accepted schema that loads is not migrated from an empty database if an event
is called like the index of another one. -/
theorem clashingSchema_unmigrated :
    ∃ compiled, compileRaw clashingSchema none = .ok compiled ∧
      (EventModule.ofCompiled compiled).Loads bareSession "events.py" "events.py" ∧
      (migrate emptyConnection (EventModule.ofCompiled compiled)).error ≠ none := by
  have loads := loads_timedSchema ["login", "idx_login_time"] (by decide) (by simp)
    accepts_clashingSchema bareSession "events.py" "events.py"
  refine ⟨_, compileRaw_eq clashingSchema none
    ((Validation.errors_eq_nil_iff _).mpr accepts_clashingSchema), loads, ?_⟩
  have plain := hasPlainNames_of_loads clashingSchema none accepts_clashingSchema _ _ _ loads
  intro succeeds
  have free := (migrate_moduleOf_iff clashingSchema none accepts_clashingSchema plain
    emptyConnection ⟨rfl, rfl⟩ (holds_empty _)).mp succeeds
  have apart := free.apart (timedEvent "idx_login_time") (by simp [clashingSchema, timedSchema])
    (timedEvent "login") (by simp [clashingSchema, timedSchema])
  exact absurd apart (by decide)

end Migration

end EventForge
