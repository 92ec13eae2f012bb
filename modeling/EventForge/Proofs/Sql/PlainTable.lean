import EventForge.Proofs.Sql.Additions
import EventForge.Proofs.Sql.Selection

/-!
# Plain databases

A plain database holds tables of integers without rules, indexes that refuse nothing, and no views or
triggers.  Plain columns that are added and plain tables that are made keep it plain, and what its
rows hold under the names of columns stays.
-/

namespace EventForge

open Outcome

/-- Whether a column has a plain name and holds integers. -/
structure IsIntegerColumn (column : Text × Text) : Prop where
  named : IsName column.1
  type : SqlToken.IsColumnType column.2

/-- Whether a table has columns of integers and no rules, and its rows hold integers under growing
numbers. -/
structure SqlTable.IsPlain (table : SqlTable) : Prop where
  bare : table = { name := table.name, columns := table.columns, rows := table.rows }
  inhabited : table.columns ≠ []
  columns : ∀ column ∈ table.columns,
    ∃ pair, column = .plain pair ∧ IsIntegerColumn pair
  names : (table.columns.map fun column => column.name.toAsciiLower).Nodup
  cells : ∀ row ∈ table.rows, row.cells.length = table.columns.length
  integers : ∀ row ∈ table.rows, ∀ cell ∈ row.cells, cell = .null ∨ ∃ value, cell = .integer value
  ordered : (table.rows.map SqlRow.id).Pairwise (· < ·)

structure Database.IsPlain (database : Database) : Prop where
  tables : ∀ table ∈ database.tables, table.IsPlain
  names : (database.tables.map fun table => table.name.toAsciiLower).Nodup
  indexes : ∀ index ∈ database.indexes, index.unique = false
  views : database.views = []
  triggers : database.triggers = []

/-- What the rows of a table hold under the names of columns. -/
def SqlTable.contents (table : SqlTable) : List (Text → Cell) := table.rows.map table.cellOf

theorem affinity_of_isColumnType (type : Text) (known : SqlToken.IsColumnType type) :
    Affinity.ofTypeName type = .integer := by
  rcases known with rfl | rfl <;> decide

namespace SqlTable.GrowsBy

variable {old new : SqlTable} {added : List ColumnDefinition}

/-- Every row of a table that goes on was there before. -/
theorem exists_before (grows : old.GrowsBy added new) {position : Nat} {row : SqlRow}
    (rowAt : new.rows[position]? = some row) :
    ∃ before, old.rows[position]? = some before ∧ before.Grows old.columns added row := by
  obtain ⟨short, _⟩ := List.getElem?_eq_some_iff.mp rowAt
  have inside : position < old.rows.length := by
    rw [← grows.count]
    exact short
  have beforeAt := List.getElem?_eq_getElem inside
  exact ⟨_, beforeAt, grows.rows position _ row beforeAt rowAt⟩

/-- What each row keeps is kept in the order of the rows. -/
theorem map_rows {Value : Type} (grows : old.GrowsBy added new) (readOld readNew : SqlRow → Value)
    (each : ∀ before ∈ old.rows, ∀ row, before.Grows old.columns added row →
      readNew row = readOld before) : new.rows.map readNew = old.rows.map readOld := by
  refine List.ext_getElem? fun position => ?_
  rw [List.getElem?_map, List.getElem?_map]
  cases rowAt : new.rows[position]? with
  | none =>
      have outside := List.getElem?_eq_none_iff.mp rowAt
      rw [grows.count] at outside
      rw [List.getElem?_eq_none_iff.mpr outside]
      rfl
  | some row =>
      obtain ⟨before, beforeAt, growsRow⟩ := grows.exists_before rowAt
      rw [beforeAt]
      exact congrArg some (each before (List.mem_of_getElem? beforeAt) row growsRow)

end SqlTable.GrowsBy

namespace SqlTable.IsPlain

variable {table : SqlTable}

theorem isSound (plain : table.IsPlain) : table.IsSound := ⟨plain.names, plain.cells⟩

theorem isStray_eq_false (plain : table.IsPlain) (row : SqlRow) (member : row ∈ table.rows) :
    ∀ cell ∈ row.cells, cell.isStray = false := by
  intro cell cellMember
  rcases plain.integers row member cell cellMember with rfl | ⟨value, rfl⟩ <;> rfl

theorem affinity (plain : table.IsPlain) {column : ColumnDefinition} (member : column ∈ table.columns) :
    column.affinity = .integer := by
  obtain ⟨pair, rfl, known⟩ := plain.columns column member
  exact affinity_of_isColumnType pair.2 known.type

theorem generated (plain : table.IsPlain) {column : ColumnDefinition}
    (member : column ∈ table.columns) : column.generated = none := by
  obtain ⟨pair, rfl, _⟩ := plain.columns column member
  rfl

theorem holdsIntegers (plain : table.IsPlain) : table.HoldsIntegers where
  toIsSound := plain.isSound
  integers column member := by
    refine ⟨plain.affinity member, ?_⟩
    obtain ⟨pair, rfl, _⟩ := plain.columns column member
    rfl
  plain := plain.isStray_eq_false

theorem of_plain (name : Text) (columns : List (Text × Text)) (inhabited : columns ≠ [])
    (known : ∀ column ∈ columns, IsIntegerColumn column) (distinct : DistinctColumns columns) :
    (SqlTable.plain name columns).IsPlain where
  bare := rfl
  inhabited := by simpa [SqlTable.plain] using inhabited
  columns column member := by
    obtain ⟨pair, pairMember, rfl⟩ := List.mem_map.mp member
    exact ⟨pair, rfl, known pair pairMember⟩
  names := by
    simpa [DistinctColumns, SqlTable.plain, ColumnDefinition.plain, Function.comp_def] using distinct
  cells row member := by cases member
  integers row member := by cases member
  ordered := .nil

/-- The numbers of the rows do not exceed the last one. -/
theorem id_le_lastId (plain : table.IsPlain) {row : SqlRow} (member : row ∈ table.rows) :
    row.id ≤ table.lastId := by
  have ordered := plain.ordered
  unfold SqlTable.lastId
  rcases List.eq_nil_or_concat table.rows with none | ⟨rows, last, split⟩
  · rw [none] at member
    cases member
  · rw [split] at member ordered
    rw [split]
    simp only [List.concat_eq_append, List.mem_append, List.mem_singleton, List.map_append,
      List.map_cons, List.map_nil, List.pairwise_append] at member ordered
    simp only [List.concat_eq_append, List.getLast?_append, List.getLast?_singleton, Option.some_or,
      Option.map_some, Option.getD_some]
    rcases member with earlier | rfl
    · exact Int.le_of_lt (ordered.2.2 row.id (List.mem_map_of_mem earlier) last.id (by simp))
    · simp

/-- A plain table with a further column of which its rows hold nothing. -/
theorem growsBy {old new : SqlTable} {column : Text × Text} (plain : old.IsPlain)
    (grows : old.GrowsBy [.plain column] new) (known : IsIntegerColumn column)
    (absent : old.column? column.1 = none) : new.IsPlain := by
  have columns : new.columns = old.columns ++ [.plain column] := congrArg SqlTable.columns grows.same
  have earlier : ∀ row ∈ new.rows, ∃ before ∈ old.rows, before.Grows old.columns [.plain column] row := by
    intro row member
    obtain ⟨position, rowAt⟩ := List.mem_iff_getElem?.mp member
    obtain ⟨before, beforeAt, growsRow⟩ := grows.exists_before rowAt
    exact ⟨before, List.mem_of_getElem? beforeAt, growsRow⟩
  constructor
  · rw [grows.same, plain.bare]
  · simp [columns]
  · intro definition member
    rw [columns] at member
    rcases List.mem_append.mp member with before | added
    · exact plain.columns definition before
    · exact ⟨column, List.mem_singleton.mp added, known⟩
  · rw [columns, List.map_append, List.nodup_append]
    refine ⟨plain.names, by simp, ?_⟩
    intro name member other otherMember
    obtain ⟨definition, definitionMember, rfl⟩ := List.mem_map.mp member
    obtain rfl : other = column.1.toAsciiLower := by simpa [ColumnDefinition.plain] using otherMember
    have apart := List.find?_eq_none.mp absent definition definitionMember
    rwa [sameName_iff] at apart
  · intro row member
    obtain ⟨before, beforeMember, growsRow⟩ := earlier row member
    rw [columns]
    exact growsRow.width (plain.cells before beforeMember)
  · intro row member cell cellMember
    obtain ⟨before, beforeMember, growsRow⟩ := earlier row member
    have width := plain.cells before beforeMember
    obtain ⟨position, cellAt⟩ := List.mem_iff_getElem?.mp cellMember
    by_cases inside : position < old.columns.length
    · have columnAt : old.columns[position]? = some old.columns[position] :=
        List.getElem?_eq_getElem inside
      have isKept : old.columns[position].isKept = true := by
        rw [ColumnDefinition.isKept, plain.generated (List.mem_of_getElem? columnAt)]
        rfl
      obtain ⟨found, beforeAt⟩ := old.exists_cell before position _ columnAt width
      have kept := growsRow.kept position _ found columnAt isKept beforeAt
      rw [cellAt] at kept
      rw [Option.some.inj kept]
      exact plain.integers before beforeMember _ (List.mem_of_getElem? beforeAt)
    · exact .inl (growsRow.nulls width position cell (by omega) cellAt)
  · rw [grows.map_rows SqlRow.id SqlRow.id fun _ _ _ growsRow => growsRow.id]
    exact plain.ordered

end SqlTable.IsPlain

/-- The rows of a table that goes on hold the same under all names. -/
theorem SqlTable.GrowsBy.contents {old new : SqlTable} {added : List ColumnDefinition}
    (grows : old.GrowsBy added new) (plain : old.IsPlain) : new.contents = old.contents := by
  have columns : new.columns = old.columns ++ added := congrArg SqlTable.columns grows.same
  refine grows.map_rows old.cellOf new.cellOf fun before beforeMember row growsRow => ?_
  funext name
  have width := plain.cells before beforeMember
  have index : new.columnIndex? name = (old.columnIndex? name).or
      ((added.findIdx? fun column => sameName column.name name).map (· + old.columns.length)) := by
    rw [columnIndex?, columnIndex?, columns, List.findIdx?_append]
  unfold cellOf
  rw [index]
  cases found : old.columnIndex? name with
  | some place =>
      obtain ⟨inside, _, _⟩ := List.findIdx?_eq_some_iff_getElem.mp found
      have columnAt : old.columns[place]? = some old.columns[place] := List.getElem?_eq_getElem inside
      have isKept : old.columns[place].isKept = true := by
        rw [ColumnDefinition.isKept, plain.generated (List.mem_of_getElem? columnAt)]
        rfl
      obtain ⟨cell, cellAt⟩ := old.exists_cell before place _ columnAt width
      have kept := growsRow.kept place _ cell columnAt isKept cellAt
      simp [cellAt, kept]
  | none =>
      cases later : added.findIdx? fun column => sameName column.name name with
      | none => rfl
      | some place =>
          simp only [Option.none_or, Option.map_some, Option.bind_some, Option.bind_none,
            Option.getD_none]
          cases cellAt : row.cells[place + old.columns.length]? with
          | none => rfl
          | some cell => exact growsRow.nulls width _ cell (by omega) cellAt

namespace Database.IsPlain

variable {database new : Database}

theorem of_sameContent {first second : Database} (same : first.SameContent second)
    (plain : second.IsPlain) : first.IsPlain := by
  constructor
  · rw [same.tables]
    exact plain.tables
  · rw [same.tables]
    exact plain.names
  · rw [same.indexes]
    exact plain.indexes
  · rw [same.views]
    exact plain.views
  · rw [same.triggers]
    exact plain.triggers

theorem table (plain : database.IsPlain) {name : Text} {found : SqlTable}
    (tableAt : database.table? name = some found) : found.IsPlain :=
  plain.tables found (List.mem_of_find?_eq_some tableAt)

theorem empty : Database.empty.IsPlain := by
  constructor <;> simp [Database.empty]

/-- A plain table in the place of another one. -/
theorem update (plain : database.IsPlain) {changed : SqlTable} (changedPlain : changed.IsPlain) :
    (database.update changed.name fun _ => changed).IsPlain := by
  constructor
  · intro table member
    obtain ⟨found, foundMember, rfl⟩ := List.mem_map.mp member
    split
    · exact changedPlain
    · exact plain.tables found foundMember
  · have names : ((database.update changed.name fun _ => changed).tables.map fun table =>
        table.name.toAsciiLower) = database.tables.map fun table => table.name.toAsciiLower := by
      rw [Database.update, List.map_map]
      refine List.map_congr_left fun table _ => ?_
      simp only [Function.comp_apply]
      split
      · rename_i same
        exact ((sameName_iff _ _).mp same).symm
      · rfl
    rw [names]
    exact plain.names
  · exact plain.indexes
  · exact plain.views
  · exact plain.triggers

theorem createTable (plain : database.IsPlain) (name : Text) (columns : List (Text × Text))
    (usable : Identifier.isUsable name = true) (inhabited : columns ≠ [])
    (known : ∀ column ∈ columns, IsIntegerColumn column) (distinct : DistinctColumns columns)
    (made : database.createTable (.plain name columns) = .ok new) : new.IsPlain := by
  rw [Database.createTable_plain database name columns usable inhabited distinct] at made
  split at made
  · obtain rfl := Except.ok.inj made
    exact plain
  · rename_i free
    split at made
    · cases made
    · obtain rfl := Except.ok.inj made
      have absent : database.table? name = none := by
        rw [Bool.or_eq_true, not_or] at free
        simpa using free.1
      have tables : (database.addTable (SqlTable.plain name columns) []).tables =
          database.tables ++ [SqlTable.plain name columns] := by
        simp [Database.addTable, SqlTable.plain]
      constructor
      · intro table member
        rw [tables] at member
        rcases List.mem_append.mp member with before | own
        · exact plain.tables table before
        · rw [List.mem_singleton.mp own]
          exact .of_plain name columns inhabited known distinct
      · rw [tables, List.map_append, List.nodup_append]
        refine ⟨plain.names, by simp, ?_⟩
        intro other otherMember own ownMember
        obtain ⟨table, tableMember, rfl⟩ := List.mem_map.mp otherMember
        obtain rfl : own = name.toAsciiLower := by simpa [SqlTable.plain] using ownMember
        have apart := List.find?_eq_none.mp absent table tableMember
        rwa [sameName_iff] at apart
      · intro index member
        rw [Database.addTable, List.append_nil] at member
        exact plain.indexes index member
      · exact plain.views
      · exact plain.triggers

theorem addColumn (plain : database.IsPlain) {name : ObjectName} {column : Text × Text}
    (known : IsIntegerColumn column) {isOpen : Bool}
    (made : database.addColumn name [.column column.1 column.2] none isOpen = .ok new) :
    new.IsPlain := by
  obtain ⟨found, rows, tableAt, _, absent, calculated, rfl⟩ := Database.of_addColumn made
  exact plain.update ((plain.table tableAt).growsBy (Database.growsBy_newColumn calculated) known absent)

theorem createIndex (plain : database.IsPlain) {text : IndexText} (free : text.unique = false)
    (made : database.createIndex text = .ok new) : new.IsPlain := by
  obtain ⟨table, _, ⟨_, rfl⟩ | ⟨_, rfl⟩⟩ := Database.of_createIndex made
  · exact plain
  · refine ⟨plain.tables, plain.names, ?_, plain.views, plain.triggers⟩
    intro other member
    rcases List.mem_append.mp member with before | own
    · exact plain.indexes other before
    · rw [List.mem_singleton.mp own]
      exact free

end Database.IsPlain

/-- Whether a database has a table with some columns, and what its rows hold. -/
def Database.Has (database : Database) (name : Text) (names : List Text)
    (contents : List (Text → Cell)) : Prop :=
  ∃ table, database.table? name = some table ∧
    (∀ column ∈ names, (table.column? column).isSome = true) ∧ table.contents = contents

end EventForge
