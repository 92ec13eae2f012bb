import EventForge.Proofs.Store.MigrationGrowth
import EventForge.Proofs.Store.MigrationRun

/-!
# Tables that are brought up to date

The statements for a table are decided from the columns that it has.  Behind some of them those that
are left are decided, and behind all of them none, since the table is up to date.
-/

namespace EventForge

open SqlToken Outcome

namespace Migration

/-! ## Runs of statements -/

/-- Whether statements take effect one after the other. -/
def Reaches (connection : Connection) (texts : List Text) (after : Connection) : Prop :=
  applyAll connection texts = { stopped := none, applied := texts, connection := after }

theorem reaches_nil (connection after : Connection) :
    Reaches connection [] after ↔ after = connection := by
  constructor
  · intro reaches
    exact (congrArg Progress.connection reaches).symm
  · rintro rfl
    rfl

theorem reaches_cons (connection after : Connection) (text : Text) (texts : List Text) :
    Reaches connection (text :: texts) after ↔
      ∃ rows middle, connection.execute text [] = .ok (rows, middle) ∧
        Reaches middle texts after := by
  unfold Reaches
  rw [applyAll]
  cases executed : connection.execute text [] with
  | error fault => simp
  | ok result =>
      obtain ⟨rows, middle⟩ := result
      constructor
      · intro reaches
        refine ⟨rows, middle, rfl, ?_⟩
        simp only at reaches
        generalize applyAll middle texts = progress at reaches ⊢
        obtain ⟨stopped, applied, ended⟩ := progress
        simpa using reaches
      · rintro ⟨_, _, same, reaches⟩
        obtain ⟨rfl, rfl⟩ := Prod.mk.inj (Except.ok.inj same)
        simp only [reaches]

theorem reaches_append (connection after : Connection) (first second : List Text) :
    Reaches connection (first ++ second) after ↔
      ∃ middle, Reaches connection first middle ∧ Reaches middle second after := by
  induction first generalizing connection with
  | nil => simp [reaches_nil]
  | cons text first ih =>
      rw [List.cons_append, reaches_cons]
      constructor
      · rintro ⟨rows, next, executed, reaches⟩
        obtain ⟨middle, lower, upper⟩ := (ih next).mp reaches
        exact ⟨middle, (reaches_cons _ _ _ _).mpr ⟨rows, next, executed, lower⟩, upper⟩
      · rintro ⟨middle, lower, upper⟩
        obtain ⟨rows, next, executed, lower⟩ := (reaches_cons _ _ _ _).mp lower
        exact ⟨rows, next, executed, (ih next).mpr ⟨middle, lower, upper⟩⟩

/-- Statements that are not stopped all take effect. -/
theorem reaches_of_stopped (connection : Connection) (texts : List Text)
    (goesOn : (applyAll connection texts).stopped = none) :
    Reaches connection texts (applyAll connection texts).connection := by
  induction texts generalizing connection with
  | nil => rfl
  | cons text texts ih =>
      rw [applyAll] at goesOn ⊢
      split at goesOn
      · cases goesOn
      · rename_i rows middle executed
        exact (reaches_cons _ _ _ _).mpr ⟨rows, middle, executed, ih middle goesOn⟩

theorem Reaches.unique {connection first second : Connection} {texts : List Text}
    (lower : Reaches connection texts first) (upper : Reaches connection texts second) :
    first = second :=
  congrArg Progress.connection (lower.symm.trans upper)

theorem Reaches.grows {connection after : Connection} {texts : List Text}
    (reaches : Reaches connection texts after) (each : ∀ text ∈ texts, IsAddition text) :
    connection.database.Grows after.database := by
  have grows := grows_applyAll connection texts each
  rwa [reaches] at grows

/-- A connection stays what it is but for its database. -/
theorem isReady_execute {connection after : Connection} {text : Text} {values : Fields Document}
    {rows : List (List Document)} (ready : connection.IsReady)
    (executed : connection.execute text values = .ok (rows, after)) : after.IsReady := by
  obtain ⟨_, _, _, _, _, same⟩ := Connection.yields_execute connection text values _ executed
  have same : after = _ := same
  rw [same]
  exact ⟨ready.opened, ready.known⟩

theorem isReady_of_columns {connection : Connection} {table : Text} {names : List Text}
    (shown : connection.columns table = .ok names) : connection.IsReady := by
  obtain ⟨_, executed, _⟩ := (bind_eq_ok_iff _ _ _).mp shown
  exact Connection.isReady_of_execute executed

theorem Reaches.isReady {connection after : Connection} {texts : List Text}
    (reaches : Reaches connection texts after) (ready : connection.IsReady) : after.IsReady := by
  induction texts generalizing connection with
  | nil => rwa [(reaches_nil _ _).mp reaches]
  | cons text texts ih =>
      obtain ⟨rows, middle, executed, others⟩ := (reaches_cons _ _ _ _).mp reaches
      exact ih others (isReady_execute ready executed)

/-! ## Single tables -/

/-- Whether a table is brought up to date by some statements. -/
def Brings (connection : Connection) (target : Target) (texts : List Text) (after : Connection) :
    Prop :=
  applyTarget connection target = { stopped := none, applied := texts, connection := after }

/-- Whether the index of a table is made by some statements, of which there is one at most. -/
def Indexes (connection : Connection) (target : Target) (texts : List Text) (after : Connection) :
    Prop :=
  connection.hasIndex (indexName target) = .ok true ∧ texts = [] ∧ after = connection ∨
    connection.hasIndex (indexName target) = .ok false ∧ texts = [createIndexText target] ∧
      Reaches connection texts after

theorem indexes_iff (connection after : Connection) (target : Target) (texts : List Text) :
    Indexes connection target texts after ↔
      applyIndex connection target = { stopped := none, applied := texts, connection := after } := by
  unfold Indexes applyIndex
  cases connection.hasIndex (indexName target) with
  | error fault => simp
  | ok found =>
      cases found with
      | true =>
          simp only [true_and, Except.ok.injEq, Bool.true_eq_false, false_and, or_false,
            Progress.mk.injEq]
          constructor
          · rintro ⟨rfl, rfl⟩
            exact ⟨rfl, rfl⟩
          · rintro ⟨rfl, rfl⟩
            exact ⟨rfl, rfl⟩
      | false =>
          simp only [Except.ok.injEq, Bool.false_eq_true, false_and, true_and, false_or]
          constructor
          · rintro ⟨rfl, reaches⟩
            exact reaches
          · intro reaches
            have whole := reaches_of_stopped connection [createIndexText target]
              (by rw [reaches])
            have applied := congrArg Progress.applied (whole.symm.trans reaches)
            obtain rfl : [createIndexText target] = texts := applied
            exact ⟨rfl, reaches⟩

theorem brings_iff (connection after : Connection) (target : Target) (texts : List Text) :
    Brings connection target texts after ↔
      ∃ existing middle last, connection.columns target.table = .ok existing ∧
        Reaches connection (columnPlan existing target) middle ∧
        Indexes middle target last after ∧ texts = columnPlan existing target ++ last := by
  unfold Brings applyTarget
  cases connection.columns target.table with
  | error fault => simp
  | ok existing =>
      constructor
      · intro brings
        simp only at brings
        split at brings
        · rename_i fault stopped
          have none := congrArg Progress.stopped brings
          rw [stopped] at none
          cases none
        · rename_i goesOn
          have reaches := reaches_of_stopped connection (columnPlan existing target) goesOn
          have whole : (applyAll connection (columnPlan existing target)).applied =
              columnPlan existing target := by rw [reaches]
          have stopped := congrArg Progress.stopped brings
          have applied := congrArg Progress.applied brings
          have ended := congrArg Progress.connection brings
          simp only [whole] at stopped applied ended
          refine ⟨existing, _, _, rfl, reaches, (indexes_iff _ after target _).mpr ?_, applied.symm⟩
          rw [← stopped, ← ended]
      · rintro ⟨_, middle, last, same, reaches, indexes, rfl⟩
        obtain rfl := Except.ok.inj same
        have indexed := (indexes_iff _ _ _ _).mp indexes
        simp only [show applyAll connection (columnPlan existing target) = _ from reaches, indexed]

/-! ## What a table gets -/

/-- Making the table of a target makes it in the database. -/
theorem exists_createTable {connection after : Connection} {target : Target}
    (usable : target.IsUsable) (inhabited : target.columns ≠ [])
    (reaches : Reaches connection [createTableText target] after) :
    ∃ new, connection.database.createTable target.kept.tableText = .ok new ∧
      after.database.SameContent new := by
  obtain ⟨rows, middle, executed, ended⟩ := (reaches_cons _ _ _ _).mp reaches
  obtain rfl := (reaches_nil _ _).mp ended
  rw [createTableText_eq] at executed
  obtain ⟨bound, performed, made, same⟩ :=
    Connection.exists_perform (ofText_createTable_kept target usable inhabited) executed
  obtain ⟨new, created, made⟩ := (bind_eq_ok_iff _ _ _).mp made
  obtain rfl := Except.ok.inj made
  exact ⟨new, created, same⟩

/-- Making the index of a target makes it in the database. -/
theorem exists_createIndex {connection after : Connection} {target : Target}
    (usable : target.IsUsable) (reaches : Reaches connection [createIndexText target] after) :
    ∃ new, connection.database.createIndex target.indexText = .ok new ∧
      after.database.SameContent new := by
  obtain ⟨rows, middle, executed, ended⟩ := (reaches_cons _ _ _ _).mp reaches
  obtain rfl := (reaches_nil _ _).mp ended
  rw [createIndexText_eq] at executed
  obtain ⟨bound, performed, made, same⟩ :=
    Connection.exists_perform (ofText_createIndex target usable) executed
  obtain ⟨new, created, made⟩ := (bind_eq_ok_iff _ _ _).mp made
  obtain rfl := Except.ok.inj made
  exact ⟨new, created, same⟩

/-- The database behind the addition of a column. -/
theorem execute_addColumn {connection after : Connection} {table : Text} {column : Text × Text}
    {rows : List (List Document)} (named : IsName table) (columnNamed : IsName column.1)
    (type : IsName column.2)
    (executed : connection.execute (addColumnText table column) [] = .ok (rows, after)) :
    ∃ found grown, connection.database.table? table = some found ∧
      after.database.SameContent (connection.database.update found.name fun _ =>
        { found.withColumn (SqlReader.kept column) with rows := grown }) := by
  rw [addColumnText_eq] at executed
  obtain ⟨bound, performed, made, same⟩ :=
    Connection.exists_perform (ofText_addColumn_kept table column named columnNamed type) executed
  obtain ⟨new, added, made⟩ := (bind_eq_ok_iff _ _ _).mp made
  obtain rfl := Except.ok.inj made
  have added : connection.database.addColumn (SqlReader.plainObject table)
      [.column (SqlReader.kept column).1 (SqlReader.kept column).2] none false = .ok new := added
  obtain ⟨found, grown, tableAt, _, _, _, rfl⟩ := Database.of_addColumn added
  exact ⟨found, grown, tableAt, same⟩

/-- The table behind the addition of a column. -/
theorem table?_execute_addColumn {connection after : Connection} {table : Text}
    {column : Text × Text} {rows : List (List Document)} (named : IsName table)
    (columnNamed : IsName column.1) (type : IsName column.2)
    (executed : connection.execute (addColumnText table column) [] = .ok (rows, after)) :
    ∃ found grown, connection.database.table? table = some found ∧
      after.database.table? table =
        some { found.withColumn (SqlReader.kept column) with rows := grown } := by
  obtain ⟨found, grown, tableAt, same⟩ := execute_addColumn named columnNamed type executed
  refine ⟨found, grown, tableAt, ?_⟩
  have lookup := Database.table?_update connection.database found.name
    (fun _ => { found.withColumn (SqlReader.kept column) with rows := grown })
    (fun _ _ => sameName_self _) table
  rw [tableAt, Option.map_some, if_pos (sameName_self found.name)] at lookup
  unfold Database.table? at lookup ⊢
  rw [same.tables]
  exact lookup

/-- The names of the columns of a table that values can be given for. -/
def givenNames (table : SqlTable) : List Text := table.givenColumns.map fun column => column.name

theorem columns_of_table? {connection : Connection} (ready : connection.IsReady) {name : Text}
    (named : IsName name) {table : SqlTable} (found : connection.database.table? name = some table) :
    connection.columns name = .ok (givenNames table) := by
  rw [Connection.columns_eq connection ready name named]
  simp only [Database.columnNames, found]
  rfl

theorem givenNames_withColumn (table : SqlTable) (column : Text × Text) (rows : List SqlRow) :
    givenNames { table.withColumn column with rows } = givenNames table ++ [column.1] := by
  simp [givenNames, SqlTable.givenColumns, SqlTable.withColumn, ColumnDefinition.plain]

/-- The columns of a table behind the addition of some. -/
theorem columns_addColumns {connection after : Connection} (ready : connection.IsReady) {table : Text}
    (named : IsName table) {existing : List Text} (before : connection.columns table = .ok existing)
    (columns : List (Text × Text)) (names : ∀ column ∈ columns, IsName column.1)
    (types : ∀ column ∈ columns, IsName column.2)
    (reaches : Reaches connection (columns.map (addColumnText table)) after) :
    after.columns table = .ok (existing ++ columns.map Prod.fst) := by
  induction columns generalizing connection existing with
  | nil =>
      rw [(reaches_nil _ _).mp reaches, before]
      simp
  | cons column columns ih =>
      obtain ⟨rows, middle, executed, others⟩ := (reaches_cons _ _ _ _).mp reaches
      obtain ⟨found, grown, tableAt, tableAfter⟩ := table?_execute_addColumn named
        (names column (by simp)) (types column (by simp)) executed
      have middleReady := isReady_execute ready executed
      rw [columns_of_table? ready named tableAt] at before
      obtain rfl := Except.ok.inj before
      have next := columns_of_table? middleReady named tableAfter
      rw [givenNames_withColumn] at next
      rw [ih middleReady next (fun other member => names other (by simp [member]))
        (fun other member => types other (by simp [member])) others]
      simp

/-- Whether every table of a database has a column that values can be given for. -/
def HasColumns (database : Database) : Prop :=
  ∀ name table, database.table? name = some table → table.givenColumns ≠ []

theorem HasColumns.grows {database new : Database} (columns : HasColumns database)
    (grows : database.Grows new) : HasColumns new := by
  intro name table found
  cases before : database.table? name with
  | none => exact (grows.fresh name table before found).2
  | some old =>
      obtain ⟨grown, foundGrown, growsTable⟩ := grows.tables name old before
      rw [found] at foundGrown
      obtain rfl := Option.some.inj foundGrown
      exact growsTable.given (columns name old before)

/-- The table behind its making. -/
theorem columns_createTable {connection after : Connection} (ready : connection.IsReady)
    {target : Target} (proper : target.IsProper) (sound : HasColumns connection.database)
    (view : connection.database.view? target.table = none)
    (none : connection.columns target.table = .ok [])
    (reaches : Reaches connection [createTableText target] after) :
    after.columns target.table = .ok (target.columns.map Prod.fst) := by
  obtain ⟨rows, middle, executed, ended⟩ := (reaches_cons _ _ _ _).mp reaches
  obtain rfl := (reaches_nil _ _).mp ended
  have absent : connection.database.table? target.table = Option.none := by
    cases found : connection.database.table? target.table with
    | none => rfl
    | some table =>
        rw [columns_of_table? ready proper.table found] at none
        exact absurd (List.map_eq_nil_iff.mp (Except.ok.inj none)) (sound _ table found)
  have created := connection.database.createTable_plain target.table target.columns
    proper.table.usable proper.inhabited proper.distinct
  rw [absent, view] at created
  rw [execute_createTable connection ready target proper, Target.tableText, created] at executed
  split at executed
  · rename_i taken
    simp at taken
  · split at executed
    · cases executed
    · have same := (Prod.mk.inj (Except.ok.inj executed)).2
      have afterReady : after.IsReady := by
        rw [← same]
        exact ⟨ready.opened, ready.known⟩
      have content := Database.sameContent_recorded connection.database (createTableTokens target)
        (.createTable (.plain target.table target.columns))
        (connection.database.addTable (SqlTable.plain target.table target.columns) [])
      have found : after.database.table? target.table =
          some (SqlTable.plain target.table target.columns) := by
        rw [← same]
        unfold Database.table? at absent ⊢
        rw [content.tables]
        simp [Database.addTable, List.find?_append, absent, SqlTable.plain]
      rw [columns_of_table? afterReady proper.table found, givenNames,
        SqlTable.givenColumns_of_given _ (SqlTable.isGiven_plain _ _)]
      simp [SqlTable.plain, ColumnDefinition.plain, Function.comp_def]

/-! ## What is missing behind some statements -/

theorem fold_of_isName {name : Text} (named : IsName name) : name.fold = name.toAsciiLower :=
  Text.fold_ascii _ (Identifier.isAscii_of_isUsable _ named.usable)

/-- The columns of a target that are not among some others. -/
def missing (existing : List Text) (target : Target) : List (Text × Text) :=
  target.columns.filter fun column => !(existing.map Text.fold).contains column.1.fold

theorem columnPlan_of_ne_nil (existing : List Text) (target : Target) (inhabited : existing ≠ []) :
    columnPlan existing target = (missing existing target).map (addColumnText target.table) := by
  cases existing with
  | nil => exact absurd rfl inhabited
  | cons name names => rfl

theorem missing_eq_nil_iff (existing : List Text) (target : Target) :
    missing existing target = [] ↔
      ∀ column ∈ target.columns, column.1.fold ∈ existing.map Text.fold := by
  simp [missing, List.filter_eq_nil_iff]

theorem missing_self (target : Target) : missing (target.columns.map Prod.fst) target = [] := by
  rw [missing_eq_nil_iff]
  intro column member
  exact List.mem_map_of_mem (List.mem_map_of_mem member)

/-- What is missing behind the first of the columns that are missing are the others. -/
theorem missing_append {target : Target} (proper : target.IsProper) (existing : List Text)
    (first second : List (Text × Text)) (parts : missing existing target = first ++ second) :
    missing (existing ++ first.map Prod.fst) target = second := by
  have behind : missing (existing ++ first.map Prod.fst) target =
      (missing existing target).filter fun column =>
        !((first.map Prod.fst).map Text.fold).contains column.1.fold := by
    rw [missing, missing, List.filter_filter]
    refine List.filter_congr fun column _ => ?_
    rw [List.map_append, Bool.eq_iff_iff]
    simp only [List.contains_eq_mem, List.mem_append, Bool.not_eq_true', decide_eq_false_iff_not,
      Bool.and_eq_true]
    rw [not_or, and_comm]
  have folded : ∀ column ∈ target.columns, column.1.fold = column.1.toAsciiLower :=
    fun column member => fold_of_isName (proper.columns column member)
  have distinct : ((first ++ second).map fun column => column.1.fold).Nodup := by
    rw [← parts, missing]
    refine List.Nodup.sublist (List.filter_sublist.map _) ?_
    rw [List.map_congr_left folded]
    exact proper.distinct
  rw [List.map_append, List.nodup_append] at distinct
  rw [behind, parts, List.filter_append]
  have gone : first.filter (fun column =>
      !((first.map Prod.fst).map Text.fold).contains column.1.fold) = [] := by
    rw [List.filter_eq_nil_iff]
    intro column member
    simpa using ⟨column.1, ⟨column.2, member⟩, rfl⟩
  have left : second.filter (fun column =>
      !((first.map Prod.fst).map Text.fold).contains column.1.fold) = second := by
    rw [List.filter_eq_self]
    intro column member
    rw [Bool.not_eq_true', List.contains_eq_mem, decide_eq_false_iff_not, List.map_map]
    intro taken
    exact distinct.2.2 _ taken _ (List.mem_map_of_mem member) rfl
  rw [gone, left, List.nil_append]

/-- What statements need of the database that they start from: tables have columns, and no table
has the name of a view. -/
structure Suits (connection : Connection) (targets : List Target) : Prop where
  ready : connection.IsReady
  columns : HasColumns connection.database
  views : ∀ target ∈ targets, connection.database.view? target.table = none

theorem Suits.reaches {connection after : Connection} {targets : List Target} {texts : List Text}
    (suits : Suits connection targets) (each : ∀ text ∈ texts, IsAddition text)
    (reaches : Reaches connection texts after) : Suits after targets := by
  have grows := reaches.grows each
  refine ⟨reaches.isReady suits.ready, suits.columns.grows grows, fun target member => ?_⟩
  rw [Database.view?, grows.views]
  exact suits.views target member

theorem Suits.of_subset {connection : Connection} {targets others : List Target}
    (suits : Suits connection targets) (subset : others ⊆ targets) : Suits connection others :=
  ⟨suits.ready, suits.columns, fun target member => suits.views target (subset member)⟩

/-- What is decided for the columns of a table behind some of its statements are the others. -/
theorem columnPlan_behind {connection middle : Connection} {target : Target}
    (proper : target.IsProper) (suits : Suits connection [target]) {existing done rest : List Text}
    (before : connection.columns target.table = .ok existing)
    (parts : columnPlan existing target = done ++ rest) (reaches : Reaches connection done middle) :
    ∃ names, middle.columns target.table = .ok names ∧ columnPlan names target = rest := by
  by_cases inhabited : existing = []
  · subst inhabited
    have parts : [createTableText target] = done ++ rest := parts
    cases done with
    | nil =>
        rw [(reaches_nil _ _).mp reaches]
        exact ⟨[], before, parts⟩
    | cons text others =>
        obtain ⟨rfl, none⟩ := List.cons_eq_cons.mp parts
        obtain ⟨rfl, rfl⟩ := List.append_eq_nil_iff.mp none.symm
        refine ⟨_, columns_createTable suits.ready proper suits.columns (suits.views target (by simp))
          before reaches, ?_⟩
        rw [columnPlan_of_ne_nil _ _ (by simpa using proper.inhabited), missing_self, List.map_nil]
  · rw [columnPlan_of_ne_nil _ _ inhabited] at parts
    obtain ⟨first, second, split, rfl, rfl⟩ := List.map_eq_append_iff.mp parts
    have listed : ∀ column ∈ first, column ∈ target.columns := by
      intro column member
      have inMissing : column ∈ missing existing target := by
        rw [split]
        exact List.mem_append_left _ member
      exact (List.mem_filter.mp inMissing).1
    refine ⟨_, columns_addColumns suits.ready proper.table before first
      (fun column member => proper.columns column (listed column member))
      (fun column member => isName_of_isColumnType (proper.types column (listed column member)))
      reaches, ?_⟩
    rw [columnPlan_of_ne_nil _ _ (by simp [inhabited]), missing_append proper existing first second split]

/-! ## Tables that are up to date -/

/-- Whether a database has the table of a target with all its columns. -/
def HasTable (database : Database) (target : Target) : Prop :=
  ∃ table, database.table? target.table = some table ∧
    ∀ column ∈ target.columns, column.1.fold ∈ (givenNames table).map Text.fold

/-- Whether a database has the table of a target and its index. -/
structure UpToDate (database : Database) (target : Target) : Prop where
  table : HasTable database target
  index : (database.index? (indexName target)).isSome = true

theorem HasTable.grows {database new : Database} {target : Target} (has : HasTable database target)
    (grows : database.Grows new) : HasTable new target := by
  obtain ⟨table, found, every⟩ := has
  obtain ⟨grown, foundGrown, added, growsBy⟩ := grows.tables target.table table found
  obtain ⟨others, given⟩ := growsBy.given
  refine ⟨grown, foundGrown, fun column member => ?_⟩
  rw [givenNames, ← given, List.map_append, List.map_append]
  exact List.mem_append_left _ (every column member)

theorem UpToDate.grows {database new : Database} {target : Target} (upToDate : UpToDate database target)
    (grows : database.Grows new) : UpToDate new target := by
  refine ⟨upToDate.table.grows grows, ?_⟩
  obtain ⟨indexes, same⟩ := grows.indexes
  have index := upToDate.index
  rw [Database.index?] at index
  rw [Database.index?, ← same, List.find?_append, Option.isSome_or, index, Bool.true_or]

/-- A table that is up to date gets no statement. -/
theorem brings_upToDate {connection : Connection} (ready : connection.IsReady) {target : Target}
    (proper : target.IsProper) (upToDate : UpToDate connection.database target) :
    Brings connection target [] connection := by
  obtain ⟨table, found, every⟩ := upToDate.table
  have nothing : missing (givenNames table) target = [] := (missing_eq_nil_iff _ _).mpr every
  have inhabited : givenNames table ≠ [] := by
    intro none
    obtain ⟨column, member⟩ := List.exists_mem_of_ne_nil _ proper.inhabited
    have listed := every column member
    rw [none] at listed
    cases listed
  have plan : columnPlan (givenNames table) target = [] := by
    rw [columnPlan_of_ne_nil _ _ inhabited, nothing, List.map_nil]
  refine (brings_iff _ _ _ _).mpr ⟨givenNames table, connection, [],
    columns_of_table? ready proper.table found, ?_, .inl ⟨?_, rfl, rfl⟩, by rw [plan]; rfl⟩
  · rw [plan]
    exact (reaches_nil _ _).mpr rfl
  · simp [Connection.hasIndex, ready.opened, upToDate.index]

/-- Only a table of the database itself has all the columns of a target with a time of creation. -/
theorem hasTable_of_columnPlan {connection : Connection} {target : Target} (proper : target.IsProper)
    (dated : ∃ column ∈ target.columns, column.1 = "created_at") (suits : Suits connection [target])
    {names : List Text} (columns : connection.columns target.table = .ok names)
    (nothing : columnPlan names target = []) : HasTable connection.database target := by
  have inhabited : names ≠ [] := by
    rintro rfl
    cases nothing
  rw [columnPlan_of_ne_nil _ _ inhabited, List.map_eq_nil_iff, missing_eq_nil_iff] at nothing
  cases found : connection.database.table? target.table with
  | some table =>
      rw [columns_of_table? suits.ready proper.table found] at columns
      obtain rfl := Except.ok.inj columns
      exact ⟨table, found, nothing⟩
  | none =>
      rw [Connection.columns_eq connection suits.ready target.table proper.table,
        columnNames_of_absent _ _ proper.table.usable found (suits.views target (by simp))] at columns
      obtain rfl := Except.ok.inj columns
      cases provided : Database.virtual? target.table with
      | none =>
          rw [provided] at inhabited
          exact absurd rfl inhabited
      | some table =>
          obtain ⟨column, member, named⟩ := dated
          have listed := nothing column member
          have folded : ("created_at" : Text).fold = "created_at" := by decide
          have absent := (created_at_not_mem_virtual target.table table provided).2
          rw [provided, Option.map_some, Option.getD_some, named, folded] at listed
          rw [List.contains_eq_mem, decide_eq_false_iff_not] at absent
          exact absurd listed absent

/-- Behind the statement that makes an index there is one with its name. -/
theorem index?_createIndex {connection after : Connection} {target : Target}
    (usable : target.IsUsable) (reaches : Reaches connection [createIndexText target] after) :
    (after.database.index? (indexName target)).isSome = true := by
  obtain ⟨new, created, same⟩ := exists_createIndex usable reaches
  have indexed : (new.index? (indexName target)).isSome = true := by
    obtain ⟨table, _, ⟨found, rfl⟩ | ⟨_, rfl⟩⟩ := Database.of_createIndex created
    · exact found
    · have own : sameName (target.indexText.indexOn table).name (indexName target) = true :=
        sameName_self _
      simp [Database.index?, List.find?_append, own]
  unfold Database.index? at indexed ⊢
  rw [same.indexes]
  exact indexed

theorem isStatementOf_indexes {connection after : Connection} {target : Target} {texts : List Text}
    (indexes : Indexes connection target texts after) : ∀ text ∈ texts, IsStatementOf target text := by
  rcases indexes with ⟨_, rfl, _⟩ | ⟨_, rfl, _⟩
  · simp
  · simpa using IsStatementOf.index

theorem isAddition_indexes {connection after : Connection} {target : Target}
    (spelled : target.IsSpelled) {texts : List Text}
    (indexes : Indexes connection target texts after) : ∀ text ∈ texts, IsAddition text :=
  fun text member => (isStatementOf_indexes indexes text member).isAddition spelled

theorem Indexes.reaches {connection after : Connection} {target : Target} {texts : List Text}
    (indexes : Indexes connection target texts after) : Reaches connection texts after := by
  rcases indexes with ⟨_, rfl, same⟩ | ⟨_, _, reaches⟩
  · exact (reaches_nil _ _).mpr same
  · exact reaches

theorem index?_indexes {connection after : Connection} {target : Target}
    (usable : target.IsUsable) {texts : List Text} (indexes : Indexes connection target texts after) :
    (after.database.index? (indexName target)).isSome = true := by
  rcases indexes with ⟨found, _, rfl⟩ | ⟨_, rfl, reaches⟩
  · unfold Connection.hasIndex at found
    split at found
    · cases found
    · exact Except.ok.inj found
  · exact index?_createIndex usable reaches

theorem isStatementOf_brings {connection after : Connection} {target : Target} {texts : List Text}
    (brings : Brings connection target texts after) : ∀ text ∈ texts, IsStatementOf target text := by
  obtain ⟨existing, middle, last, _, _, indexes, rfl⟩ := (brings_iff _ _ _ _).mp brings
  intro text member
  rcases List.mem_append.mp member with columns | index
  · exact isStatementOf_columnPlan target existing text columns
  · exact isStatementOf_indexes indexes text index

/-- Every statement that brings a table up to date adds. -/
theorem isAddition_brings {connection after : Connection} {target : Target} (proper : target.IsProper)
    {texts : List Text} (brings : Brings connection target texts after) :
    ∀ text ∈ texts, IsAddition text :=
  fun text member => (isStatementOf_brings brings text member).isAddition proper.isPlain.isSpelled

theorem Brings.reaches {connection after : Connection} {target : Target} {texts : List Text}
    (brings : Brings connection target texts after) : Reaches connection texts after := by
  obtain ⟨existing, middle, last, _, reaches, indexes, rfl⟩ := (brings_iff _ _ _ _).mp brings
  exact (reaches_append _ _ _ _).mpr ⟨middle, reaches, indexes.reaches⟩

section Table

variable {connection after middle : Connection} {target : Target} (proper : target.IsProper)
  (dated : ∃ column ∈ target.columns, column.1 = "created_at") (suits : Suits connection [target])

include proper dated suits

/-- A table is up to date behind its statements. -/
theorem upToDate_brings {texts : List Text} (brings : Brings connection target texts after) :
    UpToDate after.database target := by
  obtain ⟨existing, middle, last, before, reaches, indexes, rfl⟩ := (brings_iff _ _ _ _).mp brings
  have additions := isAddition_columnPlan proper.isPlain.isSpelled existing
  obtain ⟨names, columns, nothing⟩ := columnPlan_behind proper suits before (List.append_nil _).symm
    reaches
  have has := hasTable_of_columnPlan proper dated (suits.reaches additions reaches) columns nothing
  exact ⟨has.grows (indexes.reaches.grows (isAddition_indexes proper.isPlain.isSpelled indexes)),
    index?_indexes proper.toIsNamed.isUsable indexes⟩

/-- What is decided for a table behind some of its statements are the others. -/
theorem brings_behind {done rest : List Text} (brings : Brings connection target (done ++ rest) after)
    (reaches : Reaches connection done middle) : Brings middle target rest after := by
  have upToDate := upToDate_brings proper dated suits brings
  obtain ⟨existing, between, last, before, made, indexes, parts⟩ := (brings_iff _ _ _ _).mp brings
  rcases List.append_eq_append_iff.mp parts with ⟨others, plan, rfl⟩ | ⟨others, rfl, ends⟩
  · -- The columns are not complete yet.
    obtain ⟨names, columns, left⟩ := columnPlan_behind proper suits before plan reaches
    rw [plan, reaches_append] at made
    obtain ⟨same, lower, upper⟩ := made
    obtain rfl := lower.unique reaches
    exact (brings_iff _ _ _ _).mpr ⟨names, between, last, columns, by rwa [left], indexes, by rw [left]⟩
  · -- At most the index is missing.
    obtain ⟨same, lower, upper⟩ := (reaches_append _ _ _ _).mp reaches
    obtain rfl := lower.unique made
    obtain ⟨names, columns, nothing⟩ := columnPlan_behind proper suits before
      (List.append_nil _).symm made
    cases others with
    | nil =>
        obtain rfl := (reaches_nil _ _).mp upper
        have ends : last = rest := ends
        refine (brings_iff _ _ _ _).mpr ⟨names, middle, last, columns, ?_, indexes, ?_⟩
        · rw [nothing]
          exact (reaches_nil _ _).mpr rfl
        · rw [nothing, ends, List.nil_append]
    | cons text others =>
        have whole : others = [] ∧ rest = [] := by
          rcases indexes with ⟨_, none, _⟩ | ⟨_, one, _⟩
          · rw [none] at ends
            cases ends
          · rw [one] at ends
            exact List.append_eq_nil_iff.mp (List.cons_eq_cons.mp ends).2.symm
        obtain ⟨rfl, rfl⟩ := whole
        rw [List.append_nil] at ends
        have reached := indexes.reaches
        rw [ends] at reached
        obtain rfl := upper.unique reached
        exact brings_upToDate (brings.reaches.isReady suits.ready) proper upToDate

end Table

end Migration

end EventForge
