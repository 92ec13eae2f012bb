import EventForge.Proofs.Store.MigrationStep

/-!
# Migrating from an empty database

Each step of a migration finds the tables and indexes of the targets in front of it.  Hence the
migration of an empty database comes to its end exactly if no table has the name of an index of the
same migration and none is provided by the database.
-/

namespace EventForge.Migration

open SqlToken

variable {connection : Connection} {targets : List Target} {rows : Text → List SqlRow}

theorem columns_new (ready : connection.IsReady) (target : Target) (proper : target.IsProper)
    (holds : Holds connection.database targets rows) (new : target.IsNew targets) :
    connection.columns target.table =
      .ok (((Database.virtual? target.table).map VirtualTable.columns).getD []) := by
  rw [Connection.columns_eq connection ready target.table proper.table,
    columnNames_of_absent _ _ proper.table.usable
      ((table?_eq_none_iff holds target.table).mpr new.table) (view?_eq_none holds target.table),
    Outcome.mapError_ok]

theorem hasIndex_new (made : Connection) (ready : made.IsReady) (target : Target)
    (holds : HoldsTable made.database targets target rows) (new : target.IsNew targets) :
    made.hasIndex (indexName target) = .ok false := by
  have absent : made.database.index? (indexName target) = none := by
    rw [Database.index?, holds.indexes, List.find?_eq_none]
    simpa [Target.index, SqlIndex.plain] using new.index
  simp [Connection.hasIndex, ready.opened, absent]

/-- A target whose names are free is migrated by making its table and its index. -/
theorem migrateTable_free (ready : connection.IsReady) (target : Target)
    (proper : target.IsProper) (holds : Holds connection.database targets rows)
    (new : target.IsNew targets) (noRows : rows target.table = [])
    (free : target.IsFree targets) :
    ∃ migrated : Connection,
      migrateTable connection target =
        (.ok [createTableText target, createIndexText target], migrated) ∧
      migrated.IsReady ∧ Holds migrated.database (targets ++ [target]) rows := by
  obtain ⟨made, created, madeReady, madeHolds⟩ :=
    execute_createTable_new ready target proper holds new free.table noRows
  have columns := columns_new ready target proper holds new
  rw [free.provided] at columns
  obtain ⟨migrated, indexed, migratedReady, migratedHolds⟩ :=
    execute_createIndex_free made madeReady target proper madeHolds new noRows free.index
  have noIndex := hasIndex_new made madeReady target madeHolds new
  have brought : applyAll connection (columnPlan [] target) =
      { stopped := none, applied := [createTableText target], connection := made } :=
    applyAll_one created
  exact ⟨migrated, migrateTable_indexing columns brought noIndex indexed, migratedReady, migratedHolds⟩

/-- The columns of the tables that the database provides, as they are written. -/
def writtenColumns : List (List String) :=
  (VirtualTable.integerSettings.map fun entry => [entry.1]) ++
    (VirtualTable.textSettings.map fun entry => [entry.1]) ++
    [["timeout"], ["cache_size"], ["seq", "name", "file"]] ++
    VirtualTable.listings.map Prod.snd ++ VirtualTable.others.map Prod.snd

theorem columns_all : VirtualTable.all.map VirtualTable.columns =
    writtenColumns.map (List.map Text.ofString) := by
  simp only [VirtualTable.all, writtenColumns, List.map_append, List.map_map]
  rfl

/-- No table that the database provides has a column for the time of creation. -/
theorem created_at_not_mem_virtual (name : Text) (table : VirtualTable)
    (provided : Database.virtual? name = some table) :
    table.columns.isEmpty = false ∧
      (table.columns.map Text.fold).contains ("created_at" : Text) = false := by
  have listed : table.columns ∈ VirtualTable.all.map VirtualTable.columns :=
    List.mem_map_of_mem (List.mem_of_find?_eq_some provided)
  rw [columns_all] at listed
  obtain ⟨strings, written, columns⟩ := List.mem_map.mp listed
  have inhabited : ∀ strings ∈ writtenColumns, strings ≠ [] := by decide
  have apart : ∀ strings ∈ writtenColumns, (strings.all fun string =>
      Text.hasAsciiBytes string && (Text.ofBytes string).fold != Text.ofBytes "created_at") = true := by
    decide +kernel
  rw [← columns, Text.ofString_eq_ofBytes "created_at" (by decide)]
  refine ⟨by simpa using inhabited strings written, ?_⟩
  rw [List.contains_eq_mem, decide_eq_false_iff_not, List.mem_map]
  rintro ⟨column, member, same⟩
  have differs := Text.forall_mem_ofBytes (fun column => column.fold != Text.ofBytes "created_at")
    strings (apart strings written) column member
  rw [same, bne_self_eq_false] at differs
  cases differs

/-- A target with the name of a table that the database provides is refused a column. -/
theorem migrateTable_provided (ready : connection.IsReady) (target : Target)
    (proper : target.IsProper) (holds : Holds connection.database targets rows)
    (new : target.IsNew targets) (dated : ∃ column ∈ target.columns, column.1 = "created_at")
    (provided : (Database.virtual? target.table).isSome = true) :
    migrateTable connection target =
      (.error { table := target.table, fault := .refused (.virtualFixed "altered") },
        connection) := by
  obtain ⟨table, found⟩ := Option.isSome_iff_exists.mp provided
  obtain ⟨inhabited, absent⟩ := created_at_not_mem_virtual target.table table found
  have columns := columns_new ready target proper holds new
  rw [found] at columns
  obtain ⟨column, member, named⟩ := dated
  have missing : column ∈ target.columns.filter fun column =>
      !(table.columns.map Text.fold).contains column.1.fold := by
    have folded : ("created_at" : Text).fold = "created_at" := by decide
    rw [List.mem_filter, named, folded, absent]
    exact ⟨member, rfl⟩
  obtain ⟨first, others, plan⟩ := List.exists_cons_of_ne_nil (List.ne_nil_of_mem missing)
  have firstMember : first ∈ target.columns :=
    (List.mem_filter.mp (plan ▸ List.mem_cons_self ..)).1
  have refused := execute_addColumn_provided connection ready target.table first proper.table
    (proper.columns first firstMember) (proper.types first firstMember)
    ((table?_eq_none_iff holds target.table).mpr new.table) (view?_eq_none holds target.table)
    provided
  have stopped : applyAll connection (columnPlan table.columns target) =
      { stopped := some (.refused (.virtualFixed "altered")), applied := [], connection } := by
    rw [columnPlan, inhabited, if_neg Bool.false_ne_true]
    simp only [plan, List.map_cons, applyAll_refused refused]
  exact migrateTable_stopped columns stopped

/-- A target whose table or index has a name that is taken is refused. -/
theorem migrateTable_taken (ready : connection.IsReady) (target : Target)
    (proper : target.IsProper) (holds : Holds connection.database targets rows)
    (new : target.IsNew targets) (noRows : rows target.table = [])
    (dated : ∃ column ∈ target.columns, column.1 = "created_at")
    (taken : ¬target.IsFree targets) :
    ∃ fault stopped, migrateTable connection target =
      (.error { table := target.table, fault }, stopped) := by
  cases provided : Database.virtual? target.table with
  | some table =>
      exact ⟨_, _, migrateTable_provided ready target proper holds new dated (by simp [provided])⟩
  | none =>
      have columns := columns_new ready target proper holds new
      rw [provided] at columns
      by_cases tableFree : ∀ other ∈ targets, sameName (indexName other) target.table = false
      · obtain ⟨made, created, madeReady, madeHolds⟩ :=
          execute_createTable_new ready target proper holds new tableFree noRows
        have clash : ∃ other ∈ targets, sameName other.table (indexName target) = true := by
          apply Classical.byContradiction
          intro apart
          refine taken ⟨tableFree, fun other member => ?_, provided⟩
          rw [Bool.eq_false_iff]
          exact fun same => apart ⟨other, member, same⟩
        obtain ⟨other, member, same⟩ := clash
        have refused := execute_createIndex_taken made madeReady target proper madeHolds new noRows
          other member same
        have noIndex := hasIndex_new made madeReady target madeHolds new
        have brought : applyAll connection (columnPlan [] target) =
            { stopped := none, applied := [createTableText target], connection := made } :=
          applyAll_one created
        exact ⟨_, _, migrateTable_unindexed columns brought noIndex refused⟩
      · have indexed : (connection.database.index? target.table).isSome = true := by
          rw [Option.isSome_iff_ne_none]
          exact fun absent => tableFree ((index?_eq_none_iff holds target.table).mp absent)
        have refused : connection.execute (createTableText target) [] =
            .error (.refused (.indexNamed target.table)) := by
          rw [execute_createTable connection ready target proper, Target.tableText,
            Database.createTable_plain _ _ _ proper.table.usable proper.inhabited proper.distinct,
            (table?_eq_none_iff holds target.table).mpr new.table,
            view?_eq_none holds target.table, indexed]
          rfl
        have stopped : applyAll connection (columnPlan [] target) =
            { stopped := some (.refused (.indexNamed target.table)), applied := [], connection } :=
          applyAll_refused refused
        exact ⟨_, _, migrateTable_stopped columns stopped⟩

/-- Whether targets can be migrated together: each is proper and has the usual columns for its time
and its creation, and no two tables have the same name. -/
structure IsPlan (targets : List Target) : Prop where
  proper : ∀ target ∈ targets, target.IsProper
  timed : ∀ target ∈ targets, target.timeColumn = "time"
  dated : ∀ target ∈ targets, ∃ column ∈ target.columns, column.1 = "created_at"
  distinct : (targets.map fun target => target.table.toAsciiLower).Nodup

/-- Whether no table has the name of an index or of a table that the database provides. -/
structure IsDisjoint (targets : List Target) : Prop where
  apart : ∀ target ∈ targets, ∀ other ∈ targets, sameName target.table (indexName other) = false
  provided : ∀ target ∈ targets, Database.virtual? target.table = none

/-- Indexes on columns of one name have the same name only if their tables have. -/
theorem sameName_of_indexName (first second : Target)
    (timed : first.timeColumn = second.timeColumn)
    (same : sameName (indexName first) (indexName second) = true) :
    sameName first.table second.table = true := by
  rw [sameName_iff, indexName_eq, indexName_eq, timed] at same
  simp only [Text.toAsciiLower_append, List.append_cancel_left_eq, List.append_cancel_right_eq]
    at same
  exact (sameName_iff _ _).mpr same

theorem isNew_of_isPlan (done : List Target) (target : Target) (others : List Target)
    (plan : IsPlan (done ++ target :: others)) : target.IsNew done := by
  have table : ∀ other ∈ done, sameName other.table target.table = false := by
    intro other member
    have apart := plan.distinct
    rw [List.map_append, List.map_cons] at apart
    rw [Bool.eq_false_iff, ne_eq, sameName_iff]
    exact (List.nodup_append.mp apart).2.2 _ (List.mem_map.mpr ⟨other, member, rfl⟩) _ (by simp)
  refine ⟨table, fun other member => ?_⟩
  rw [Bool.eq_false_iff]
  intro same
  have timed := (plan.timed other (by simp [member])).trans (plan.timed target (by simp)).symm
  exact absurd (sameName_of_indexName other target timed same) (by simp [table other member])

/-- Targets without clashes are migrated one after the other. -/
theorem migrateAll_of_isDisjoint (done targets : List Target) (ready : connection.IsReady)
    (plan : IsPlan (done ++ targets)) (holds : Holds connection.database done rows)
    (noRows : ∀ target ∈ targets, rows target.table = []) (disjoint : IsDisjoint (done ++ targets)) :
    ∃ migrated : Connection,
      migrateAll connection targets =
        { error := none
          applied := targets.flatMap fun target =>
            [createTableText target, createIndexText target]
          connection := migrated } ∧
      migrated.IsReady ∧ Holds migrated.database (done ++ targets) rows := by
  induction targets generalizing connection done with
  | nil => exact ⟨connection, rfl, ready, by simpa using holds⟩
  | cons target targets ih =>
      have free : target.IsFree done :=
        ⟨fun other member => by
            rw [sameName_comm]
            exact disjoint.apart target (by simp) other (by simp [member]),
          fun other member => disjoint.apart other (by simp [member]) target (by simp),
          disjoint.provided target (by simp)⟩
      obtain ⟨next, migrated, nextReady, nextHolds⟩ := migrateTable_free ready target
        (plan.proper target (by simp)) holds (isNew_of_isPlan done target targets plan)
        (noRows target (by simp)) free
      obtain ⟨last, migratedRest, lastReady, lastHolds⟩ := ih (done ++ [target]) nextReady
        (by simpa using plan) nextHolds (fun other member => noRows other (by simp [member]))
        (by simpa using disjoint)
      refine ⟨last, ?_, lastReady, by simpa using lastHolds⟩
      simp [migrateAll, migrated, migratedRest]

/-- A clash between targets stops the migration. -/
theorem migrateAll_of_clash (done targets : List Target) (ready : connection.IsReady)
    (plan : IsPlan (done ++ targets)) (holds : Holds connection.database done rows)
    (noRows : ∀ target ∈ targets, rows target.table = []) (before : IsDisjoint done)
    (clash : ¬IsDisjoint (done ++ targets)) : (migrateAll connection targets).error ≠ none := by
  induction targets generalizing connection done with
  | nil => exact absurd (by simpa using before) clash
  | cons target targets ih =>
      have proper := plan.proper target (by simp)
      have new := isNew_of_isPlan done target targets plan
      by_cases free : target.IsFree done
      · obtain ⟨next, migrated, nextReady, nextHolds⟩ := migrateTable_free ready target proper holds
          new (noRows target (by simp)) free
        have nextBefore : IsDisjoint (done ++ [target]) := by
          constructor
          · intro first firstMember second secondMember
            rcases List.mem_append.mp firstMember with firstDone | firstOwn <;>
              rcases List.mem_append.mp secondMember with secondDone | secondOwn
            · exact before.apart first firstDone second secondDone
            · obtain rfl := List.mem_singleton.mp secondOwn
              exact free.index first firstDone
            · obtain rfl := List.mem_singleton.mp firstOwn
              rw [sameName_comm]
              exact free.table second secondDone
            · obtain rfl := List.mem_singleton.mp firstOwn
              obtain rfl := List.mem_singleton.mp secondOwn
              exact sameName_indexName _
          · intro other member
            rcases List.mem_append.mp member with otherDone | own
            · exact before.provided other otherDone
            · obtain rfl := List.mem_singleton.mp own
              exact free.provided
        have stopped := ih (done ++ [target]) nextReady (by simpa using plan) nextHolds
          (fun other member => noRows other (by simp [member])) nextBefore (by simpa using clash)
        simpa [migrateAll, migrated] using stopped
      · obtain ⟨fault, stopped, refused⟩ := migrateTable_taken ready target proper holds new
          (noRows target (by simp)) (plan.dated target (by simp)) free
        simp [migrateAll, refused]

end EventForge.Migration
