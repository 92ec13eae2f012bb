import EventForge.Proofs.Sql.Insertion
import Mathlib.Data.List.Nodup

/-!
# What an insertion adds

An insertion of a row of parameters that succeeds adds one row to its table, which holds what is
given for each column as the column stores it.  This needs that nothing that is declared on the
table asks for something else: triggers, and rules that give up a row instead of refusing it.
-/

namespace EventForge

open Outcome

/-- Whether what breaks a rule is refused.  A rule can also give up the row, or remove the rows in
its way. -/
def OnlyRefuses (resolution : Option Resolution) : Prop :=
  resolution ≠ some .ignore ∧ resolution ≠ some .replace

/-- Whether nothing that is declared on a table makes something else of a row for some columns than
one more row. -/
structure SqlTable.TakesRows (table : SqlTable) (database : Database) (names : List Text) : Prop where
  numbers : OnlyRefuses table.idResolution
  values : ∀ column ∈ table.columns, column.notNull = true → OnlyRefuses column.notNullResolution
  keys : ∀ index ∈ database.indexesOf table.name, index.unique = true →
    OnlyRefuses index.resolution
  /-- A name that stands for the number of a row is that of a column. -/
  named : ∀ name ∈ names, Frame.idNames.contains name.toAsciiLower = true →
    (table.column? name).isSome = true
  /-- The numbers that are never given out twice are noted in another table. -/
  notes : table.counted = true → sameName table.name Database.sequenceTable.name = false

/-- Whether nothing that a database declares makes something else of an insertion. -/
structure Database.TakesRows (database : Database) (name : Text) (names : List Text) : Prop where
  distinct : (database.tables.map fun table => table.name.toAsciiLower).Nodup
  untriggered : database.triggersFor name .insert = []
  table : ∀ table, database.table? name = some table → table.TakesRows database names

/-- Whether a database has one more row in a table, and is the same otherwise.  The last of the
numbers that are never given out twice is noted in a table of its own. -/
structure Database.Gains (before : Database) (table : SqlTable) (row : SqlRow) (after : Database) :
    Prop where
  there : before.table? table.name = some table
  own : ∃ earlier later, table.rows = earlier ++ later ∧
    after.table? table.name = some { table with rows := earlier ++ row :: later }
  others : ∀ name, sameName table.name name = false →
    (table.counted = true → sameName Database.sequenceTable.name name = false) →
    after.table? name = before.table? name
  catalog : after.catalog = before.catalog
  rest : after = { before with tables := after.tables }

/-- Whether a row holds what is given for a column, as the column stores it.  The column for the
number of the row holds that number: the integer that is given, or else the next one. -/
structure SqlTable.Keeps (table : SqlTable) (database : Database) (row : SqlRow) (name : Text)
    (cell : Cell) : Prop where
  held : ∃ column ∈ table.columns, sameName column.name name = true ∧
    table.cellOf row name =
      if table.idColumn.any (sameName name) then .integer row.id else table.storeIn column cell
  number : table.idColumn.any (sameName name) = true →
    if cell.isNull then row.id = database.newId table else SqlTable.idOf cell = .ok row.id

/-- The rules that only refuse. -/
theorem OnlyRefuses.eq {resolution : Option Resolution} (refuses : OnlyRefuses resolution) :
    resolution = none ∨ resolution = some .abort ∨ resolution = some .fail ∨
      resolution = some .rollback := by
  obtain ⟨stays, keeps⟩ := refuses
  cases resolution with
  | none => exact .inl rfl
  | some resolution => cases resolution <;> simp_all

namespace SqlTable

/-- A row is added between the rows of a table. -/
theorem exists_addRow (row : SqlRow) (rows : List SqlRow) :
    ∃ earlier later, rows = earlier ++ later ∧ addRow row rows = earlier ++ row :: later := by
  unfold addRow
  split
  · split
    · exact ⟨rows, [], by simp, rfl⟩
    · exact ⟨_, _, List.takeWhile_append_dropWhile.symm, rfl⟩
  · rename_i empty
    exact ⟨[], [], List.getLast?_eq_none_iff.mp empty, rfl⟩

variable {table : SqlTable} {database : Database} {names : List Text}

/-- A row that comes past keys whose clashes are refused is put into its table, by induction on the
keys. -/
theorem settleKeys_of_refusing (row : SqlRow) (keys : List RowKey)
    (refusing : ∀ key ∈ keys, OnlyRefuses (table.keyResolution key)) (settlement : Settlement)
    (settled : table.settleKeys none [] none row keys = .ok settlement) :
    settlement = .stored { table with rows := addRow row table.rows } := by
  induction keys with
  | nil =>
      have others : table.rows.filter (fun other => some other.id ≠ none) = table.rows := by
        rw [List.filter_eq_self]
        intro row _
        rfl
      rw [settleKeys, others] at settled
      exact (Except.ok.inj settled).symm
  | cons key keys ih =>
      rw [settleKeys] at settled
      obtain ⟨clashing, _, settled⟩ := (bind_eq_ok_iff _ _ _).mp settled
      cases clashing with
      | none => exact ih (fun other member => refusing other (by simp [member])) settled
      | some other =>
          have noUpsert : table.upsertFor? [] key = none := rfl
          simp only [noUpsert] at settled
          rcases (refusing key (by simp)).eq with declared | declared | declared | declared <;>
            simp [declared] at settled

/-- A row that has every value that must be there is left as it is. -/
theorem present?_of_refusing (takes : table.TakesRows database names) (row : SqlRow)
    (width : row.cells.length = table.columns.length) (found : Option SqlRow)
    (made : table.present? database none row = .ok found) : found = some row := by
  obtain ⟨cells, computed, made⟩ := (bind_eq_ok_iff _ _ _).mp made
  have same : cells = (table.columns.zip row.cells).map fun entry => some entry.2 := by
    refine eq_map_of_mapM _ _ _ _ computed fun entry member value own => ?_
    obtain ⟨column, cell⟩ := entry
    have refusing := takes.values column (List.of_mem_zip member).1
    simp only [pure_eq_ok, throw_eq_error] at own
    split at own
    · exact (Except.ok.inj own).symm
    · rename_i missing
      have needed : column.notNull = true := by
        cases isNeeded : column.notNull <;> simp_all
      rcases (refusing needed).eq with declared | declared | declared | declared <;>
        simp [declared] at own
  have whole : (table.columns.zip row.cells).map (fun entry => some entry.2) =
      row.cells.map some := by
    rw [← List.map_snd_zip (Nat.le_of_eq width), List.map_map]
    simp [List.map_snd_zip (Nat.le_of_eq width)]
  rw [same, whole, mapM_some] at made
  exact (Except.ok.inj made).symm

theorem onlyRefuses_key (takes : table.TakesRows database names) :
    ∀ key ∈ table.keys database, OnlyRefuses (table.keyResolution key) := by
  intro key member
  cases key with
  | id => exact takes.numbers
  | index index =>
      rcases List.mem_append.mp member with own | other
      · split at own <;> simp at own
      · obtain ⟨found, foundMember, same⟩ := List.mem_map.mp other
        obtain rfl := RowKey.index.inj same
        have unique : found ∈ (database.indexesOf table.name).filter fun index => index.unique := by
          rcases List.mem_append.mp foundMember with plain | replacing
          · exact (List.mem_filter.mp plain).1
          · exact (List.mem_filter.mp replacing).1
        exact takes.keys found (List.mem_filter.mp unique).1 (List.mem_filter.mp unique).2

@[simp] theorem identified_id (row : SqlRow) : (table.identified row).id = row.id := by
  unfold identified
  split <;> rfl

@[simp] theorem length_identified (row : SqlRow) :
    (table.identified row).cells.length = row.cells.length := by
  unfold identified
  split
  · simp
  · rfl

/-- The number of a row stands in the column for it, and the other cells stay. -/
theorem identified_cell {name : Text} {position : Nat}
    (index : table.columnIndex? name = some position) (row : SqlRow) (cell : Cell)
    (cellAt : row.cells[position]? = some cell) :
    (table.identified row).cells[position]? =
      some (if table.idColumn.any (sameName name) then .integer row.id else cell) := by
  obtain ⟨inside, _⟩ := List.getElem?_eq_some_iff.mp cellAt
  obtain ⟨columnInside, same, _⟩ := List.findIdx?_eq_some_iff_getElem.mp index
  cases idColumn : table.idColumn with
  | none => simp [identified, idColumn, cellAt]
  | some id =>
      rw [Option.any_some, identified, idColumn, Option.bind_some]
      cases own : sameName name id with
      | true =>
          rw [← table.columnIndex?_congr own, index]
          simp [inside]
      | false =>
          rw [if_neg Bool.false_ne_true]
          cases other : table.columnIndex? id with
          | none => exact cellAt
          | some place =>
              have apart : place ≠ position := by
                rintro rfl
                obtain ⟨_, alike, _⟩ := List.findIdx?_eq_some_iff_getElem.mp other
                rw [← sameName_congr _ _ _ same, alike] at own
                cases own
              rw [← cellAt]
              exact List.getElem?_set_ne apart

/-- A row that is settled is put into its table, with the values that are calculated. -/
theorem settle_of_refusing (takes : table.TakesRows database names) (row : SqlRow)
    (width : row.cells.length = table.columns.length) (settlement : Settlement)
    (settled : table.settle database none [] none row = .ok settlement) :
    ∃ kept, table.calculated (table.identified row) = .ok kept ∧
      settlement = .stored { table with rows := addRow kept table.rows } := by
  obtain ⟨kept, calculated, settled⟩ := (bind_eq_ok_iff _ _ _).mp settled
  obtain ⟨_, _, settled⟩ := (bind_eq_ok_iff _ _ _).mp settled
  obtain ⟨found, present, settled⟩ := (bind_eq_ok_iff _ _ _).mp settled
  have keptWidth : kept.cells.length = table.columns.length := by
    have same := (kept_calculatedFrom _ _ _ _ _ calculated).2.1 (by simp [width])
    rw [same, length_identified, width]
  obtain rfl := present?_of_refusing takes kept keptWidth found present
  obtain ⟨broken, _, settled⟩ := (bind_eq_ok_iff _ _ _).mp settled
  refine ⟨kept, calculated, ?_⟩
  cases broken with
  | some label => simp at settled
  | none =>
      refine settleKeys_of_refusing kept _ (fun key member => ?_) settlement settled
      refine onlyRefuses_key takes key ?_
      rcases List.mem_append.mp member with merging | other
      · exact (List.mem_filter.mp merging).1
      · exact (List.mem_filter.mp other).1

/-- Calculating leaves what is given for a column. -/
theorem cellOf_calculated (row kept : SqlRow)
    (calculated : table.calculated (table.identified row) = .ok kept) {name : Text}
    {column : ColumnDefinition} (found : table.column? name = some column)
    (given : column.generated = none) (cell : Cell)
    (cellAt : ∀ position, table.columnIndex? name = some position →
      row.cells[position]? = some cell) :
    kept.id = row.id ∧ table.cellOf kept name =
      if table.idColumn.any (sameName name) then .integer row.id else cell := by
  obtain ⟨position, index, columnAt⟩ := columnIndex?_of_column? found
  obtain ⟨id, _, keeps⟩ := kept_calculatedFrom _ _ _ _ _ calculated
  have keptAt := keeps position column _ columnAt (.inl given)
    (identified_cell index row cell (cellAt position index))
  exact ⟨by rw [id, identified_id], by rw [cellOf, index, Option.bind_some, keptAt, Option.getD_some]⟩

end SqlTable

/-- Names that are the same stand at one place among names that differ. -/
theorem eq_of_sameName {names : List Text} (distinct : (names.map Text.toAsciiLower).Nodup)
    {first second : Nat} (firstInside : first < names.length) (secondInside : second < names.length)
    {name : Text} (firstSame : sameName names[first] name = true)
    (secondSame : sameName names[second] name = true) : first = second := by
  rw [sameName_iff] at firstSame secondSame
  have apart := List.pairwise_iff_getElem.mp distinct
  rcases Nat.lt_trichotomy first second with before | same | after
  · exact (apart first second (by simpa using firstInside) (by simpa using secondInside) before
      (by simp [firstSame, secondSame])).elim
  · exact same
  · exact (apart second first (by simpa using secondInside) (by simpa using firstInside) after
      (by simp [firstSame, secondSame])).elim

/-- The place of a name among names that differ. -/
theorem findIdx?_sameName {names : List Text} (distinct : (names.map Text.toAsciiLower).Nodup)
    {place : Nat} {name other : Text} (nameAt : names[place]? = some name)
    (same : sameName other name = true) : names.findIdx? (sameName other) = some place := by
  obtain ⟨inside, rfl⟩ := List.getElem?_eq_some_iff.mp nameAt
  refine List.findIdx?_eq_some_iff_getElem.mpr ⟨inside, same, fun earlier before alike => ?_⟩
  rw [sameName_comm] at same alike
  have equal := eq_of_sameName distinct (by omega) inside alike same
  omega

namespace Insertion

variable {database : Database} {table : SqlTable} {names : List Text}

/-- What is listed is a column that values can be given for, or the number of a row. -/
theorem exists_column_of_listed (takes : table.TakesRows database names) (insertion : Insertion)
    {name : Text} (member : name ∈ names)
    (listed : insertion.checkListed table false name = .ok ()) :
    ∃ column, table.column? name = some column ∧ column.generated = none := by
  unfold checkListed at listed
  cases found : table.column? name with
  | some column =>
      refine ⟨column, rfl, ?_⟩
      cases generated : column.generated with
      | none => rfl
      | some value => simp [found, generated] at listed
  | none =>
      simp only [found] at listed
      split at listed
      · rename_i isNumber
        have there := takes.named name member (Bool.and_eq_true_iff.mp isNumber).2
        rw [found] at there
        cases there
      · cases listed

/-- What is given for the number of a row is what is given for the column of it. -/
theorem plan_of_known (distinct : (names.map Text.toAsciiLower).Nodup)
    (known : ∀ name ∈ names, (table.column? name).isSome = true) (shown : Text)
    (plan : InsertionPlan)
    (planned : (SqlReader.plainInsertion shown names).plan { table } names.length = .ok plan) :
    plan.columns = table.columns.map (listedPosition? names) ∧
      ∀ (place : Nat) (name : Text), names[place]? = some name →
        table.idColumn.any (sameName name) = true → plan.id = some place := by
  simp only [Insertion.plan, SqlReader.plainInsertion, ne_eq, not_true_eq_false, if_false,
    pure_eq_ok] at planned
  obtain rfl := Except.ok.inj planned
  refine ⟨rfl, fun place name nameAt isId => ?_⟩
  obtain ⟨inside, rfl⟩ := List.getElem?_eq_some_iff.mp nameAt
  have found : names.reverse.findIdx? (fun name =>
      (table.column? name).isNone || table.idColumn.any (sameName name)) =
        some (names.length - 1 - place) := by
    rw [List.findIdx?_eq_some_iff_getElem]
    have reversed : names.length - 1 - place < names.reverse.length := by
      rw [List.length_reverse]
      omega
    have own : names.reverse[names.length - 1 - place] = names[place] := by
      rw [List.getElem_reverse]
      congr 1
      omega
    refine ⟨reversed, by rw [own, isId, Bool.or_true], fun earlier before found => ?_⟩
    rw [List.getElem_reverse] at found
    have column := known names[names.length - 1 - earlier] (List.getElem_mem _)
    rw [Option.isNone_eq_false_iff.mpr column, Bool.false_or] at found
    cases idColumn : table.idColumn with
    | none => simp [idColumn] at isId
    | some id =>
        rw [idColumn] at isId found
        have equal := eq_of_sameName distinct (by omega) inside found isId
        omega
  rw [found]
  exact congrArg some (show names.length - 1 - (names.length - 1 - place) = place by omega)

theorem newRow_of_ok {id : Option Nat} {values cells : List Cell} {given : Cell}
    (made : newRow database table { columns := table.columns.map (listedPosition? names), id }
      values = .ok (cells, given)) :
    cells.length = table.columns.length ∧
      given = (id.bind fun position => values[position]?).getD .null ∧
      ∀ (position place : Nat) (column : ColumnDefinition), table.columns[position]? = some column →
        names.findIdx? (sameName column.name) = some place →
        cells[position]? = some (table.storeIn column (values.getD place .null)) := by
  obtain ⟨made', computed, same⟩ := (bind_eq_ok_iff _ _ _).mp made
  obtain ⟨rfl, rfl⟩ := Prod.mk.inj (Except.ok.inj same)
  obtain ⟨length, each⟩ := mapM_positions _ _ _ computed
  refine ⟨by simp [length], rfl, fun position place column columnAt listed => ?_⟩
  have pairAt : (table.columns.zip (table.columns.map (listedPosition? names)))[position]? =
      some (column, some place) := by
    rw [List.getElem?_zip_eq_some]
    exact ⟨columnAt, by rw [List.getElem?_map, columnAt]; exact congrArg some listed⟩
  obtain ⟨short, _⟩ := List.getElem?_eq_some_iff.mp pairAt
  have cellAt := List.getElem?_eq_getElem (show position < made'.length by rw [length]; exact short)
  have own := each position _ _ pairAt cellAt
  rw [cellAt, ← Except.ok.inj own]

end Insertion

namespace Database

variable {database : Database} {table : SqlTable} {name : Text} {names : List Text}

/-- Tables that keep their names keep their places in the catalog. -/
theorem catalog_update (changed : Text) (change : SqlTable → SqlTable)
    (keeps : ∀ table ∈ database.tables, sameName table.name changed = true →
      (change table).name = table.name) :
    (database.update changed change).catalog = database.catalog := by
  have tables : (database.update changed change).tables.map (fun table =>
      (⟨.table, table.name, table.name⟩ : CatalogEntry)) =
        database.tables.map fun table => ⟨.table, table.name, table.name⟩ := by
    rw [update, List.map_map]
    refine List.map_congr_left fun table member => ?_
    simp only [Function.comp_apply]
    split
    · rename_i same
      rw [keeps table member same]
    · rfl
  unfold catalog
  rw [tables]
  rfl

/-- Tables of one name are one table. -/
theorem eq_of_table? (distinct : (database.tables.map fun table => table.name.toAsciiLower).Nodup)
    (found : database.table? name = some table) :
    ∀ other ∈ database.tables, sameName other.name table.name = true → other = table := by
  intro other member same
  exact List.inj_on_of_nodup_map distinct member (List.mem_of_find?_eq_some found)
    ((sameName_iff _ _).mp same)

/-- Noting a number changes the rows of a table only. -/
theorem noteCounted_eq_update (database : Database) (name : Text) (id : Int) :
    ∃ change : SqlTable → SqlTable, (∀ table, (change table).name = table.name) ∧
      database.noteCounted name id = database.update sequenceTable.name change := by
  refine ⟨_, fun table => ?_, rfl⟩
  dsimp only
  split <;> rfl

theorem triggersFor_congr (event : RowEvent) {first second : Text}
    (same : sameName first second = true) :
    database.triggersFor first event = database.triggersFor second event := by
  unfold triggersFor
  simp only [sameName_comm _ first, sameName_comm _ second, sameName_congr first second _ same]

/-- A row that is put into a table is one more row. -/
theorem gains_update (takes : database.TakesRows name names)
    (found : database.table? name = some table) (row : SqlRow) (id : Int) {changed : Database}
    (put : changed = database.update table.name fun _ =>
      { table with rows := SqlTable.addRow row table.rows }) :
    database.Gains table row (if table.counted then changed.noteCounted table.name id else changed) := by
  obtain ⟨earlier, later, split, added⟩ := SqlTable.exists_addRow row table.rows
  have lookup := database.table?_update table.name
    (fun _ => { table with rows := SqlTable.addRow row table.rows }) fun _ _ => sameName_self _
  have again : database.table? table.name = some table := by
    rw [database.table?_congr (table?_some _ _ _ found), found]
  have own : changed.table? table.name = some { table with rows := earlier ++ row :: later } := by
    rw [put, lookup, again, Option.map_some, if_pos (sameName_self _), added]
  have others : ∀ other, sameName table.name other = false →
      changed.table? other = database.table? other := by
    intro other apart
    rw [put]
    exact database.table?_update_other table.name
      (fun _ => { table with rows := SqlTable.addRow row table.rows }) (fun _ _ => sameName_self _) apart
  have catalog : changed.catalog = database.catalog := by
    rw [put]
    refine catalog_update _ _ fun other member same => ?_
    rw [eq_of_table? takes.distinct found other member same]
  have rest : changed = { database with tables := changed.tables } := by
    rw [put]
    rfl
  cases counted : table.counted with
  | false =>
      rw [if_neg Bool.false_ne_true]
      exact ⟨again, ⟨earlier, later, split, own⟩, fun other apart _ => others other apart, catalog, rest⟩
  | true =>
      -- The note goes to a table that is another one.
      have foreign := (takes.table table found).notes counted
      obtain ⟨change, keeps, noted⟩ := noteCounted_eq_update changed table.name id
      have stays : ∀ other, sameName other.name sequenceTable.name = true →
          sameName (change other).name sequenceTable.name = true := fun other same => by
        rw [keeps, same]
      rw [if_pos rfl, noted]
      refine ⟨again, ⟨earlier, later, split, ?_⟩, fun other apart noNote => ?_, ?_, ?_⟩
      · rw [changed.table?_update_other _ _ stays (by rw [sameName_comm, foreign]), own]
      · rw [changed.table?_update_other _ _ stays (noNote counted), others other apart]
      · rw [catalog_update _ change fun other _ _ => keeps other, catalog]
      · rw [put]
        rfl

/-- The triggers stay. -/
theorem Gains.triggersFor {row : SqlRow} {after : Database} (gains : database.Gains table row after)
    (name : Text) (event : RowEvent) :
    after.triggersFor name event = database.triggersFor name event := by
  rw [gains.rest]
  rfl

end Database

namespace Change

/-- The number that is given for a row, or else another one. -/
theorem exists_number {given : Cell} {next : Option Int → Except SqlRefusal Database}
    {after : Database}
    (made : (if given.isNull = true then (do next (← pure none))
      else (do next (← some <$> SqlTable.idOf given))) = .ok after) :
    ∃ number : Option Int, next number = .ok after ∧ ∀ other,
      if given.isNull then number.getD other = other
      else SqlTable.idOf given = .ok (number.getD other) := by
  cases missing : given.isNull with
  | true =>
      rw [missing, if_pos rfl] at made
      exact ⟨none, made, fun _ => rfl⟩
  | false =>
      rw [missing, if_neg Bool.false_ne_true] at made
      obtain ⟨number, read, made⟩ := (bind_eq_ok_iff _ _ _).mp made
      cases known : SqlTable.idOf given with
      | error fault => simp [known] at read
      | ok id =>
          obtain rfl : some id = number := by simpa [known] using read
          exact ⟨_, made, fun _ => rfl⟩

/-- A row that is inserted is one more row of its table, with what is given for each column. -/
theorem gains_of_insertRowAt (around : Surroundings) {name : Text} {table : SqlTable}
    {names : List Text} (takes : around.database.TakesRows name names)
    (found : around.database.table? name = some table)
    (distinct : (names.map Text.toAsciiLower).Nodup)
    (known : ∀ name ∈ names, ∃ column, table.column? name = some column ∧ column.generated = none)
    (fuel : Nat) (context : ChangeContext) (plan : InsertionPlan)
    (columns : plan.columns = table.columns.map (Insertion.listedPosition? names))
    (id : ∀ (place : Nat) (name : Text), names[place]? = some name →
      table.idColumn.any (sameName name) = true → plan.id = some place)
    (values : List Cell) (after : Database)
    (inserted : insertRowAt (fuel + 2) context around { table }
      (SqlReader.plainInsertion name names) none plan values = .ok after) :
    ∃ row, around.database.Gains table row after ∧
      ∀ (place : Nat) (name : Text) (cell : Cell), names[place]? = some name →
        values[place]? = some cell → table.Keeps around.database row name cell := by
  have named := Database.table?_some _ _ _ found
  have again : around.database.table? table.name = some table := by
    rw [around.database.table?_congr named, found]
  have untriggered : around.database.triggersFor table.name .insert = [] := by
    rw [Database.triggersFor_congr _ named, takes.untriggered]
  obtain ⟨⟨cells, given⟩, made, inserted⟩ := (bind_eq_ok_iff _ _ _).mp inserted
  have planned : plan = ⟨table.columns.map (Insertion.listedPosition? names), plan.id⟩ := by
    rw [← columns]
  rw [planned] at made
  obtain ⟨length, givenId, cellAt⟩ := Insertion.newRow_of_ok made
  obtain ⟨number, inserted, numbered⟩ := exists_number inserted
  have before := fireDueAt_of_untriggered fuel context around { table } .before .insert
  simp only [before _ untriggered, ok_bind, again, Bool.false_eq_true, if_false] at inserted
  obtain ⟨settlement, settled, inserted⟩ := (bind_eq_ok_iff _ _ _).mp inserted
  obtain ⟨kept, calculated, rfl⟩ := SqlTable.settle_of_refusing (takes.table table found) _ length
    settlement settled
  obtain ⟨fired, performed, inserted⟩ := (bind_eq_ok_iff _ _ _).mp inserted
  have gains := Database.gains_update takes found kept (number.getD (around.database.newId table)) rfl
  -- No trigger is made by the insertion, so that none is performed behind it either.
  rw [fireDueAt_of_untriggered _ _ _ _ _ _ _ ((gains.triggersFor _ _).trans untriggered)] at performed
  obtain rfl := Except.ok.inj performed
  obtain rfl := Except.ok.inj inserted
  refine ⟨kept, gains, fun place name cell nameAt valueAt => ?_⟩
  obtain ⟨column, columnFound, notGenerated⟩ := known name (List.mem_of_getElem? nameAt)
  have same : sameName column.name name = true := by simpa using List.find?_some columnFound
  obtain ⟨keptId, held⟩ := SqlTable.cellOf_calculated _ kept calculated columnFound
    notGenerated (table.storeIn column cell) (by
      intro position index
      obtain ⟨_, indexAgain, columnAt⟩ := SqlTable.columnIndex?_of_column? columnFound
      obtain rfl := Option.some.inj (index.symm.trans indexAgain)
      rw [cellAt position place column columnAt (findIdx?_sameName distinct nameAt same)]
      simp [valueAt])
  refine ⟨⟨column, List.mem_of_find?_eq_some columnFound, same, ?_⟩, fun isId => ?_⟩
  · rw [held, keptId]
  · have own : given = cell := by
      rw [givenId, id place name nameAt isId, Option.bind_some, valueAt, Option.getD_some]
    rw [← own, keptId]
    exact numbered (around.database.newId table)

end Change

namespace Database

variable {database : Database} {name : Text} {names : List Text}

/-- An insertion is into a table where no trigger stands for it. -/
theorem changeTarget_of_untriggered (untriggered : database.triggersFor name .insert = [])
    {target : ChangeTarget}
    (made : database.changeTarget false (SqlReader.plainObject name) .insert = .ok target) :
    ∃ table, database.table? name = some table ∧ target = { table } := by
  simp only [changeTarget, SqlReader.plainObject, isMain, Bool.false_eq_true, if_false] at made
  cases found : database.table? name with
  | some table =>
      refine ⟨table, rfl, ?_⟩
      simpa [found] using made.symm
  | none =>
      cases viewFound : database.view? name with
      | some view =>
          have same : sameName view.name name = true := by simpa using List.find?_some viewFound
          have none := (database.triggersFor_congr .insert same).trans untriggered
          simp only [found, viewFound, none, List.isEmpty_nil, if_true, throw_eq_error] at made
          obtain ⟨_, _, made⟩ := (bind_eq_ok_iff _ _ _).mp made
          cases made
      | none =>
          cases master : master? name <;> cases provided : virtual? name <;>
            simp [found, viewFound, master, provided] at made

/-- An insertion of a row of parameters that succeeds adds one row. -/
theorem gains_of_performOnRows (takes : database.TakesRows name names)
    (distinct : (names.map Text.toAsciiLower).Nodup) (cells : List Cell)
    (width : cells.length = names.length) (rows : List (List Cell)) (after : Database)
    (performed : database.performOnRows (numbered cells) false
      (.insert (SqlReader.plainInsertion name names)) = .ok (rows, after)) :
    rows = [] ∧ ∃ table row, database.table? name = some table ∧ database.Gains table row after ∧
      ∀ (place : Nat) (name : Text) (cell : Cell), names[place]? = some name →
        cells[place]? = some cell → table.Keeps database row name cell := by
  obtain ⟨fuel, depth⟩ : ∃ fuel, evaluationDepth = fuel + 4 := ⟨evaluationDepth - 4, rfl⟩
  let around := Evaluation.topmost database (numbered cells) false
  obtain ⟨columns, count, read⟩ := evaluate_parameters around rfl names.length cells width
    (.inr ⟨rfl, rfl⟩)
  obtain ⟨changed, inserted, same⟩ := (bind_eq_ok_iff _ _ _).mp performed
  obtain ⟨rfl, rfl⟩ := Prod.mk.inj (Except.ok.inj same)
  rw [depth] at inserted
  obtain ⟨target, targeted, inserted⟩ := (bind_eq_ok_iff _ _ _).mp inserted
  obtain ⟨table, found, rfl⟩ := changeTarget_of_untriggered takes.untriggered targeted
  obtain ⟨_, listed, inserted⟩ := (bind_eq_ok_iff _ _ _).mp inserted
  obtain ⟨given, evaluated, inserted⟩ := (bind_eq_ok_iff _ _ _).mp inserted
  obtain rfl := Except.ok.inj (read.symm.trans evaluated)
  obtain ⟨plan, planned, inserted⟩ := (bind_eq_ok_iff _ _ _).mp inserted
  simp only [Bool.false_eq_true, if_false, List.foldlM_cons, List.foldlM_nil, bind_pure] at inserted
  have known : ∀ name ∈ names, ∃ column, table.column? name = some column ∧
      column.generated = none := fun name member =>
    Insertion.exists_column_of_listed (takes.table table found) _ member
      (of_forIn_eq_ok names _ listed name member)
  rw [count] at planned
  obtain ⟨columnsAt, idAt⟩ := Insertion.plan_of_known distinct (fun name member => by
    obtain ⟨column, columnFound, _⟩ := known name member
    simp [columnFound]) name plan planned
  obtain ⟨row, gains, keeps⟩ := Change.gains_of_insertRowAt around takes found distinct known fuel {}
    plan columnsAt idAt cells _ inserted
  exact ⟨rfl, table, row, found, gains, keeps⟩

end Database

end EventForge
