import EventForge.Proofs.Store.TableProgress

/-!
# What a migration delivers

A migration looks for the columns of a table under their folded names, and for the index on its time
under its name alone.  The database keeps apart names that fold to the same one, and an index can be
on another table.  Hence a migration that succeeds leaves what it promises exactly if what it found
under these names is what it looked for.
-/

namespace EventForge

open SqlToken Outcome

namespace Database

/-- The columns of the table with a name, if there is one. -/
def columnsOf? (database : Database) (table : Text) : Option (List ColumnDefinition) :=
  (database.table? table).map SqlTable.columns

/-- Whether a table has a column, under names that are the same to the database. -/
def HasColumn (database : Database) (table column : Text) : Prop :=
  ∃ columns, database.columnsOf? table = some columns ∧
    ∃ definition ∈ columns, sameName definition.name column = true

/-- Whether an index orders the rows of a table by a column first. -/
def HasIndexOn (database : Database) (table column : Text) : Prop :=
  ∃ index ∈ database.indexes, sameName index.table table = true ∧
    ∃ term ∈ index.terms.head?, ∃ name quoted,
      term.value = .column [name] quoted ∧ sameName name column = true

end Database

namespace Migration

/-- What the migration of a target promises: its table, its columns and an index on its time. -/
structure Delivers (database : Database) (target : Target) : Prop where
  table : (database.table? target.table).isSome = true
  columns : ∀ column ∈ target.columns, database.HasColumn target.table column.1
  index : database.HasIndexOn target.table target.timeColumn

/-- Whether what a database shows under the names of a target is what they stand for: nothing but a
table has the name of the table, each column that is found under a folded name has the name, and an
index with the name of the index is one on the time. -/
structure IsShownBy (database : Database) (target : Target) : Prop where
  table : (database.table? target.table).isSome = true ∨
    database.view? target.table = none ∧ Database.virtual? target.table = none
  columns : ∀ shown, database.columnNames target.table = .ok shown → ∀ column ∈ target.columns,
    column.1.fold ∈ shown.map Text.fold → database.HasColumn target.table column.1
  index : database.index? (indexName target) = none ∨
    database.HasIndexOn target.table target.timeColumn

/-- The definition of a column of a target. -/
def keptDefinition (column : Text × Text) : ColumnDefinition := .plain (SqlReader.kept column)

section Columns

variable {connection after : Connection}

theorem columnsOf?_sameContent {first second : Database} (same : first.SameContent second)
    (table : Text) : first.columnsOf? table = second.columnsOf? table := by
  rw [Database.columnsOf?, Database.columnsOf?, Database.table?, Database.table?, same.tables]

/-- Columns that are added stand behind those of the table, and there is no further index. -/
theorem content_addColumns {table : Text} (named : IsName table) (columns : List (Text × Text))
    (names : ∀ column ∈ columns, IsName column.1) (types : ∀ column ∈ columns, IsName column.2)
    (reaches : Reaches connection (columns.map (addColumnText table)) after) :
    (columns ≠ [] → (connection.database.columnsOf? table).isSome = true) ∧
      after.database.columnsOf? table =
        (connection.database.columnsOf? table).map (· ++ columns.map keptDefinition) ∧
      after.database.indexes = connection.database.indexes := by
  induction columns generalizing connection with
  | nil =>
      rw [(reaches_nil _ _).mp reaches]
      simp
  | cons column columns ih =>
      obtain ⟨rows, middle, executed, others⟩ := (reaches_cons _ _ _ _).mp reaches
      have columnNamed := names column (by simp)
      have type := types column (by simp)
      obtain ⟨found, grown, tableAt, tableAfter⟩ :=
        table?_execute_addColumn named columnNamed type executed
      obtain ⟨_, _, _, same⟩ := execute_addColumn named columnNamed type executed
      obtain ⟨_, later, indexes⟩ := ih (fun other member => names other (by simp [member]))
        (fun other member => types other (by simp [member])) others
      refine ⟨fun _ => by simp [Database.columnsOf?, tableAt], ?_, ?_⟩
      · rw [later]
        simp [Database.columnsOf?, tableAt, tableAfter, SqlTable.withColumn, keptDefinition]
      · exact indexes.trans same.indexes

variable {target : Target} (usable : target.IsUsable)

include usable

/-- A table without columns is never made. -/
theorem inhabited_of_createTable (reaches : Reaches connection [createTableText target] after) :
    target.columns ≠ [] := by
  intro none
  obtain ⟨rows, middle, executed, _⟩ := (reaches_cons _ _ _ _).mp reaches
  obtain ⟨fault, read⟩ := ofText_createTable_nil target usable none
  rw [createTableText_eq] at executed
  obtain ⟨bound, performed, made, _⟩ := Connection.exists_perform read executed
  obtain ⟨new, created, _⟩ := (bind_eq_ok_iff _ _ _).mp made
  obtain ⟨_, ending⟩ := (Database.of_createTable created).1
  cases ending

/-- A table that is made has the columns of the target, unless a view has its name, and there is no
further index. -/
theorem content_createTable (absent : connection.database.table? target.table = none)
    (reaches : Reaches connection [createTableText target] after) :
    (after.database.columnsOf? target.table =
      if connection.database.view? target.table = none then
        some (target.columns.map keptDefinition)
      else none) ∧ after.database.indexes = connection.database.indexes := by
  have inhabited := inhabited_of_createTable usable reaches
  obtain ⟨new, created, same⟩ := exists_createTable usable inhabited reaches
  have answer := connection.database.isNewTable_plainObject target.table usable.table.usable
  rw [absent, Option.isSome_none, Bool.false_or] at answer
  rw [columnsOf?_sameContent same, same.indexes]
  rcases (Database.of_createTable created).2 with ⟨old, rfl⟩ |
    ⟨isNew, drafted, draft, options, draftedBy, ending, optioned, _, rfl⟩
  · -- A view has the name.
    have old : connection.database.isNewTable true (SqlReader.plainObject target.table) =
        .ok false := old.resolve_left fun passes => Bool.false_ne_true passes
    rw [old] at answer
    cases view : connection.database.view? target.table with
    | some view => simp [Database.columnsOf?, absent]
    | none =>
        rw [view, Option.isSome_none] at answer
        split at answer
        · contradiction
        · split at answer <;> cases answer
  · have isNew : connection.database.isNewTable true (SqlReader.plainObject target.table) =
        .ok true := isNew
    have view : connection.database.view? target.table = none := by
      cases view : connection.database.view? target.table with
      | none => rfl
      | some view =>
          rw [isNew, view] at answer
          cases answer
    obtain rfl := TableDraft.of_foldlM_columnElements draftedBy
    obtain rfl : [] = options := Except.ok.inj ending
    obtain rfl := (Except.ok.inj optioned).symm
    rw [if_pos view]
    constructor
    · unfold Database.table? at absent
      simp [Database.columnsOf?, Database.table?, Database.addTable, List.find?_append, absent,
        SqlTable.plain, Target.kept, Target.tableText, TableText.plain, SqlReader.plainObject,
        keptDefinition]
    · simp [Database.addTable]

variable {existing : List Text} (hasColumns : HasColumns connection.database)
  (shown : connection.columns target.table = .ok existing)
  (reaches : Reaches connection (columnPlan existing target) after)

include shown in
/-- Nothing is shown under a name that stands for nothing. -/
theorem shown_eq_nil (absent : connection.database.table? target.table = none)
    (view : connection.database.view? target.table = none) :
    existing = [] ↔ Database.virtual? target.table = none := by
  rw [Connection.columns_eq connection (isReady_of_columns shown) _ usable.table,
    columnNames_of_absent _ _ usable.table.usable absent view] at shown
  obtain rfl := Except.ok.inj shown
  cases provided : Database.virtual? target.table with
  | none => simp
  | some table =>
      have inhabited := (created_at_not_mem_virtual target.table table provided).1
      simpa using inhabited

include hasColumns shown reaches

/-- Behind the statements for its columns, a table of the database has the columns that were missing,
and nothing else has become a table. -/
theorem content_columnPlan :
    (after.database.columnsOf? target.table =
      if (connection.database.table? target.table).isSome = true ∨
          connection.database.view? target.table = none ∧
            Database.virtual? target.table = none then
        some ((connection.database.columnsOf? target.table).getD [] ++
          (missing existing target).map keptDefinition)
      else none) ∧ after.database.indexes = connection.database.indexes := by
  have ready := isReady_of_columns shown
  have listed : ∀ column ∈ missing existing target, column ∈ target.columns :=
    fun column member => (List.mem_filter.mp member).1
  have missed (inhabited : existing ≠ []) :
      Reaches connection ((missing existing target).map (addColumnText target.table)) after := by
    rwa [← columnPlan_of_ne_nil existing target inhabited]
  have added (inhabited : existing ≠ []) :=
    content_addColumns usable.table (missing existing target)
      (fun column member => usable.columns column (listed column member))
      (fun column member => usable.types column (listed column member)) (missed inhabited)
  cases found : connection.database.table? target.table with
  | some table =>
      have inhabited : existing ≠ [] := by
        rw [columns_of_table? ready usable.table found] at shown
        obtain rfl := Except.ok.inj shown
        simpa [givenNames] using hasColumns target.table table found
      obtain ⟨_, later, indexes⟩ := added inhabited
      refine ⟨?_, indexes⟩
      rw [later, if_pos (by simp)]
      simp [Database.columnsOf?, found]
  | none =>
      have absent : connection.database.columnsOf? target.table = none := by
        simp [Database.columnsOf?, found]
      have noTable : ¬(none : Option SqlTable).isSome = true := by simp
      by_cases empty : existing = []
      · subst empty
        obtain ⟨made, indexes⟩ := content_createTable usable found reaches
        refine ⟨?_, indexes⟩
        cases view : connection.database.view? target.table with
        | some view => simpa [view] using made
        | none =>
            have provided := (shown_eq_nil usable shown found view).mp rfl
            rw [made, if_pos view, if_pos (.inr ⟨rfl, provided⟩), absent]
            simp [missing]
      · -- What is shown is a view or is provided by the database: no column can be added to it.
        obtain ⟨fromTable, later, indexes⟩ := added empty
        refine ⟨?_, indexes⟩
        rw [later, absent, Option.map_none, if_neg]
        rintro (table | ⟨view, provided⟩)
        · exact noTable table
        · exact empty ((shown_eq_nil usable shown found view).mpr provided)

end Columns

section Index

variable {connection after : Connection} {target : Target}

theorem index?_of_hasIndex {name : Text} {answer : Bool}
    (found : connection.hasIndex name = .ok answer) :
    (connection.database.index? name).isSome = answer := by
  unfold Connection.hasIndex at found
  split at found
  · cases found
  · exact Except.ok.inj found

/-- The statement for the index leaves one on the time, unless an index had its name already; the
time is then a column of the table or the word for a truth value. -/
theorem content_indexes (usable : target.IsUsable) {texts : List Text}
    (indexes : Indexes connection target texts after) :
    after.database.columnsOf? target.table = connection.database.columnsOf? target.table ∧
      (after.database.HasIndexOn target.table target.timeColumn ↔
        connection.database.index? (indexName target) = none ∨
          connection.database.HasIndexOn target.table target.timeColumn) ∧
      (connection.database.index? (indexName target) = none →
        SqlExpression.truthOf? target.timeColumn = none →
          after.database.HasColumn target.table target.timeColumn) := by
  rcases indexes with ⟨found, _, rfl⟩ | ⟨absent, rfl, reaches⟩
  · have found := index?_of_hasIndex found
    refine ⟨rfl, ⟨.inr, fun has => has.resolve_left ?_⟩, fun none => ?_⟩
    · exact Option.isSome_iff_ne_none.mp found
    · exact absurd none (Option.isSome_iff_ne_none.mp found)
  · have absent := index?_of_hasIndex absent
    obtain ⟨new, created, same⟩ := exists_createIndex usable reaches
    obtain ⟨table, tableAt, ⟨found, _⟩ | ⟨checked, rfl⟩⟩ := Database.of_createIndex created
    · exact absurd (absent.symm.trans found) Bool.false_ne_true
    · have tableAt : connection.database.table? target.table = some table := tableAt
      refine ⟨columnsOf?_sameContent same _, ⟨fun _ => .inl ?_, fun _ => ?_⟩, fun _ noTruth => ?_⟩
      · simpa using absent
      · refine ⟨target.indexText.indexOn table, ?_, Database.table?_some _ _ _ tableAt, _, rfl,
          target.timeColumn, false, rfl, sameName_self _⟩
        rw [same.indexes]
        exact List.mem_append_right _ (List.mem_singleton_self _)
      · have named := checked _ (List.mem_singleton_self _)
        obtain ⟨column, listed, alike⟩ := SqlTable.exists_column_of_checkRule named noTruth
        refine ⟨table.columns, ?_, column, listed, alike⟩
        rw [columnsOf?_sameContent same]
        exact congrArg (Option.map SqlTable.columns) tableAt

end Index

section Target

variable {connection after : Connection} {target : Target} {applied : List Text}

theorem brings_of_migrateTable
    (migrated : migrateTable connection target = (.ok applied, after)) :
    Brings connection target applied after := by
  unfold Brings
  unfold migrateTable at migrated
  generalize applyTarget connection target = progress at migrated ⊢
  obtain ⟨stopped, texts, ended⟩ := progress
  cases stopped with
  | some fault => simp at migrated
  | none =>
      obtain ⟨same, rfl⟩ := Prod.mk.inj migrated
      obtain rfl := Except.ok.inj same
      rfl

/-- Behind the statements for its columns, a table has each column that it had and each one that was
missing. -/
theorem hasColumn_iff {before after : Database} (usable : target.IsUsable) {existing : List Text}
    (columns : after.columnsOf? target.table =
      some ((before.columnsOf? target.table).getD [] ++
        (missing existing target).map keptDefinition))
    {column : Text × Text} (listed : column ∈ target.columns) :
    after.HasColumn target.table column.1 ↔
      before.HasColumn target.table column.1 ∨ column.1.fold ∉ existing.map Text.fold := by
  constructor
  · rintro ⟨found, foundAt, definition, member, alike⟩
    rw [columns] at foundAt
    obtain rfl := Option.some.inj foundAt
    rcases List.mem_append.mp member with old | new
    · left
      cases known : before.columnsOf? target.table with
      | none => simp [known] at old
      | some definitions =>
          rw [known] at old
          exact ⟨definitions, known, definition, old, alike⟩
    · right
      obtain ⟨other, otherMissing, rfl⟩ := List.mem_map.mp new
      obtain ⟨otherListed, isMissing⟩ := List.mem_filter.mp otherMissing
      have alike : sameName other.1 column.1 = true := alike
      rw [sameName_iff, ← fold_of_isName (usable.columns other otherListed),
        ← fold_of_isName (usable.columns column listed)] at alike
      simpa [alike] using isMissing
  · rintro (⟨definitions, known, definition, member, alike⟩ | unknown)
    · refine ⟨_, columns, definition, ?_, alike⟩
      rw [known]
      exact List.mem_append_left _ member
    · refine ⟨_, columns, keptDefinition column, List.mem_append_right _ ?_, sameName_self _⟩
      exact List.mem_map_of_mem (List.mem_filter.mpr ⟨listed, by simpa using unknown⟩)

/-- A migration that succeeds delivers what it promises exactly if the names of its target show what
they stand for.  Where it makes the index itself, the time is a column of the table, unless it is
the word for a truth value, which the index takes for the value. -/
theorem migrateTable_delivers_iff (usable : target.IsUsable)
    (hasColumns : HasColumns connection.database)
    (migrated : migrateTable connection target = (.ok applied, after)) :
    (Delivers after.database target ↔ IsShownBy connection.database target) ∧
      (connection.database.index? (indexName target) = none →
        SqlExpression.truthOf? target.timeColumn = none →
          after.database.HasColumn target.table target.timeColumn) := by
  obtain ⟨existing, middle, last, shown, reaches, indexes, rfl⟩ :=
    (brings_iff _ _ _ _).mp (brings_of_migrateTable migrated)
  obtain ⟨columns, sameIndexes⟩ := content_columnPlan usable hasColumns shown reaches
  obtain ⟨sameColumns, indexOn, timed⟩ := content_indexes usable indexes
  have index? : middle.database.index? = connection.database.index? := by
    funext name
    rw [Database.index?, Database.index?, sameIndexes]
  have hasIndexOn : middle.database.HasIndexOn = connection.database.HasIndexOn := by
    funext table column
    rw [Database.HasIndexOn, Database.HasIndexOn, sameIndexes]
  rw [index?, hasIndexOn] at indexOn
  rw [index?] at timed
  rw [← sameColumns] at columns
  have isShown (names : List Text) :
      connection.database.columnNames target.table = .ok names ↔ names = existing := by
    rw [Connection.columns_eq connection (isReady_of_columns shown) _ usable.table,
      mapError_eq_ok_iff] at shown
    rw [shown, Except.ok.injEq, eq_comm]
  have table : (after.database.table? target.table).isSome = true ↔
      (after.database.columnsOf? target.table).isSome = true := by
    rw [Database.columnsOf?, Option.isSome_map]
  refine ⟨⟨fun delivers => ?_, fun isShownBy => ?_⟩, timed⟩
  · have own := table.mp delivers.table
    rw [columns, Option.isSome_ite] at own
    rw [if_pos own] at columns
    refine ⟨own, fun names named column listed found => ?_, indexOn.mp delivers.index⟩
    obtain rfl := (isShown names).mp named
    have has := (hasColumn_iff usable columns listed).mp (delivers.columns column listed)
    exact has.resolve_right (fun unknown => unknown found)
  · rw [if_pos isShownBy.table] at columns
    refine ⟨table.mpr (by rw [columns]; rfl), fun column listed => ?_,
      indexOn.mpr isShownBy.index⟩
    refine (hasColumn_iff usable columns listed).mpr ?_
    by_cases found : column.1.fold ∈ existing.map Text.fold
    · exact .inl (isShownBy.columns existing ((isShown existing).mpr rfl) column listed found)
    · exact .inr found

end Target

/-! ### A column with a name that folds to the one of another -/

/-- A name that the database keeps apart from `size`: it begins with a long s, which folds to s. -/
def longSize : Text := "ſize"

def longTable : SqlTable := .plain "login" [("time", "BIGINT"), (longSize, "INTEGER")]

def longConnection : Connection where
  database := {
    tables := [longTable]
    indexes := [.plain "idx_login_time" "login" "time" .binary] }

theorem isUsable_sizedTarget : sizedTarget.IsUsable := by
  refine ⟨isName_login, ?_, ?_, isName_time⟩
  · simp [sizedTarget, isName_time, isName_size]
  · intro column member
    exact isName_of_isColumnType (isPlain_sizedTarget.types column member)

theorem hasColumns_longConnection : HasColumns longConnection.database := by
  intro name table found
  obtain rfl : table = longTable := by
    simpa [longConnection] using List.mem_of_find?_eq_some found
  decide

/-- The migration takes the column for the one that it looks for. -/
theorem migrateTable_longConnection :
    migrateTable longConnection sizedTarget = (.ok [], longConnection) := by
  have ready : longConnection.IsReady := ⟨rfl, rfl⟩
  have columns : longConnection.columns sizedTarget.table = .ok ["time", longSize] :=
    Connection.columns_eq longConnection ready "login" isName_login
  have plan : columnPlan ["time", longSize] sizedTarget = [] := by decide
  have brought : applyAll longConnection (columnPlan ["time", longSize] sizedTarget) =
      { stopped := none, applied := [], connection := longConnection } := by
    rw [plan, applyAll]
  have hasIndex : longConnection.hasIndex (indexName sizedTarget) = .ok true := by rfl
  exact migrateTable_indexed columns brought hasIndex

theorem not_hasColumn_longConnection : ¬longConnection.database.HasColumn "login" "size" := by
  rintro ⟨columns, found, definition, member, alike⟩
  have known : longConnection.database.columnsOf? "login" = some longTable.columns := by rfl
  rw [known] at found
  obtain rfl := Option.some.inj found
  have apart : ∀ definition ∈ longTable.columns, sameName definition.name "size" = false := by decide
  rw [apart definition member] at alike
  cases alike

theorem longConnection_delivery : sizedTarget.IsUsable ∧ HasColumns longConnection.database ∧
    migrateTable longConnection sizedTarget = (.ok [], longConnection) ∧
    (Delivers longConnection.database sizedTarget ↔
      IsShownBy longConnection.database sizedTarget) ∧
    (longConnection.database.index? (indexName sizedTarget) = none →
      SqlExpression.truthOf? sizedTarget.timeColumn = none →
        longConnection.database.HasColumn sizedTarget.table sizedTarget.timeColumn) :=
  ⟨isUsable_sizedTarget, hasColumns_longConnection, migrateTable_longConnection,
    migrateTable_delivers_iff isUsable_sizedTarget hasColumns_longConnection
      migrateTable_longConnection⟩

/-- A migration can succeed and leave a table without a column of its target. -/
theorem longConnection_undelivered : sizedTarget.IsUsable ∧ HasColumns longConnection.database ∧
    ∃ after, migrateTable longConnection sizedTarget = (.ok [], after) ∧
      ¬after.database.HasColumn "login" "size" :=
  ⟨isUsable_sizedTarget, hasColumns_longConnection, longConnection, migrateTable_longConnection,
    not_hasColumn_longConnection⟩

end Migration

end EventForge
