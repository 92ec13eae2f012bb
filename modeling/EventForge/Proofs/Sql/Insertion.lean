import EventForge.Proofs.Sql.PlainTable

/-!
# Inserting rows

A row of integers is put behind the rows of a plain table, under the number behind theirs.
-/

namespace EventForge

open Outcome

namespace SqlTable

/-- What a row holds under a name when some values are given for some names. -/
def givenValue (names : List Text) (values : List Cell) (name : Text) : Cell :=
  ((names.findIdx? (sameName name)).bind fun position => values[position]?).getD .null

/-- The cells of a row when some values are given for some names. -/
def givenCells (table : SqlTable) (names : List Text) (values : List Cell) : List Cell :=
  table.columns.map fun column => givenValue names values column.name

/-- A table with a further row. -/
def withRow (table : SqlTable) (cells : List Cell) : SqlTable :=
  { table with rows := table.rows ++ [{ id := table.lastId + 1, cells }] }

theorem givenValue_integers (names : List Text) (values : List Cell)
    (integers : ∀ cell ∈ values, cell = .null ∨ ∃ value, cell = .integer value) (name : Text) :
    givenValue names values name = .null ∨ ∃ value, givenValue names values name = .integer value := by
  unfold givenValue
  cases names.findIdx? (sameName name) with
  | none => exact .inl rfl
  | some position =>
      rw [Option.bind_some]
      cases found : values[position]? with
      | none => exact .inl rfl
      | some cell => exact integers cell (List.mem_of_getElem? found)

variable {table : SqlTable}

/-- A given row holds what is given for the names of columns, and nothing under other names. -/
theorem cellOf_given (names : List Text) (values : List Cell) (id : Int)
    (known : ∀ name ∈ names, (table.column? name).isSome = true) :
    table.cellOf { id, cells := table.givenCells names values } = givenValue names values := by
  funext name
  unfold cellOf
  cases index : table.columnIndex? name with
  | some position =>
      obtain ⟨inside, same, _⟩ := List.findIdx?_eq_some_iff_getElem.mp index
      have alike : sameName table.columns[position].name = sameName name :=
        funext fun other => sameName_congr _ _ other same
      simp [givenCells, List.getElem?_eq_getElem inside, givenValue, alike]
  | none =>
      -- A name that is given belongs to a column.
      have absent : names.findIdx? (sameName name) = none := by
        rw [List.findIdx?_eq_none_iff]
        intro other member
        obtain ⟨column, found⟩ := Option.isSome_iff_exists.mp (known other member)
        have apart := List.findIdx?_eq_none_iff.mp index column (List.mem_of_find?_eq_some found)
        have same : sameName column.name other = true := by simpa using List.find?_some found
        rw [Bool.eq_false_iff]
        intro alike
        rw [sameName_iff] at same alike
        rw [Bool.eq_false_iff, ne_eq, sameName_iff] at apart
        exact apart (same.trans alike.symm)
      rw [givenValue, absent]
      rfl

namespace IsPlain

theorem withRow (plain : table.IsPlain) (cells : List Cell)
    (width : cells.length = table.columns.length)
    (integers : ∀ cell ∈ cells, cell = .null ∨ ∃ value, cell = .integer value) :
    (table.withRow cells).IsPlain where
  bare := by
    rw [SqlTable.withRow, plain.bare]
  inhabited := plain.inhabited
  columns := plain.columns
  names := plain.names
  cells row member := by
    rcases List.mem_append.mp member with before | own
    · exact plain.cells row before
    · rw [List.mem_singleton.mp own]
      exact width
  integers row member := by
    rcases List.mem_append.mp member with before | own
    · exact plain.integers row before
    · rw [List.mem_singleton.mp own]
      exact integers
  ordered := by
    have ordered := plain.ordered
    rw [SqlTable.withRow, List.map_append, List.pairwise_append]
    refine ⟨ordered, by simp, ?_⟩
    intro id member other otherMember
    obtain ⟨row, rowMember, rfl⟩ := List.mem_map.mp member
    obtain rfl : other = table.lastId + 1 := by simpa using otherMember
    have least := plain.id_le_lastId rowMember
    omega

/-- Nothing is calculated in a plain table. -/
theorem calculated_eq (plain : table.IsPlain) (row : SqlRow)
    (width : row.cells.length = table.columns.length) : table.calculated row = .ok row := by
  have given : table.givenColumns = table.columns :=
    table.givenColumns_of_given fun column member => plain.generated member
  have known : table.columns.filter (fun column =>
      !(table.columns.map fun column => column.name).any (sameName column.name)) = [] := by
    rw [List.filter_eq_nil_iff]
    intro column member
    simp only [Bool.not_eq_true, Bool.not_eq_false', List.any_eq_true]
    exact ⟨column.name, List.mem_map_of_mem member, sameName_self _⟩
  have cells : (table.columns.zip row.cells).map (fun entry => entry.2) = row.cells :=
    List.map_snd_zip (Nat.le_of_eq width)
  have nothing : (table.columns.zip row.cells).filterMap (fun _ => (none : Option Text)) = [] := by
    simp
  unfold calculated calculatedFrom
  simp only [given]
  rw [mapM_eq_ok_map _ (fun entry => (entry.2, none)) (table.columns.zip row.cells)]
  · simp only [ok_bind, List.filterMap_map, Function.comp_def, nothing, List.isEmpty_nil,
      if_true, List.map_map, cells, known, List.getLast?_nil, pure_eq_ok]
  · intro entry member
    rw [plain.generated (List.of_mem_zip member).1]
    rfl

theorem present?_eq (plain : table.IsPlain) (database : Database) (resolution : Option Resolution)
    (row : SqlRow) (width : row.cells.length = table.columns.length) :
    table.present? database resolution row = .ok (some row) := by
  have cells : (table.columns.zip row.cells).map (fun entry => entry.2) = row.cells :=
    List.map_snd_zip (Nat.le_of_eq width)
  unfold present?
  rw [mapM_eq_ok_map _ (fun entry => some entry.2) (table.columns.zip row.cells)]
  · have split : (table.columns.zip row.cells).map (fun entry => some entry.2) =
        row.cells.map some := by
      rw [← cells, List.map_map]
      simp [cells]
    rw [ok_bind, split, mapM_some]
    rfl
  · intro entry member
    obtain ⟨pair, same, _⟩ := plain.columns _ (List.of_mem_zip member).1
    have free : entry.1.notNull = false := by
      rw [same]
      rfl
    simp [free]

/-- Only the numbers of its rows are keys of a table in a plain database. -/
theorem keys_eq (plain : table.IsPlain) (database : Database) (databasePlain : database.IsPlain) :
    table.keys database = [.id] := by
  have free : (database.indexesOf table.name).filter (fun index => index.unique) = [] := by
    rw [List.filter_eq_nil_iff]
    intro index member
    have listed := (List.mem_filter.mp (List.mem_reverse.mp member)).1
    simp [databasePlain.indexes index listed]
  have hasIds : table.hasIds = true := by rw [plain.bare]
  simp [keys, free, hasIds]

/-- A row with a new number is stored. -/
theorem settle_new (plain : table.IsPlain) (database : Database) (databasePlain : database.IsPlain)
    (cells : List Cell) (width : cells.length = table.columns.length) :
    table.settle database none [] none { id := table.lastId + 1, cells } =
      .ok (.stored (table.withRow cells)) := by
  have identified : table.identified { id := table.lastId + 1, cells } =
      { id := table.lastId + 1, cells } := by
    rw [identified, plain.bare]
    rfl
  have types : table.checkTypes { id := table.lastId + 1, cells } = .ok () := by
    rw [checkTypes, plain.bare]
    rfl
  have checked : table.brokenCheck? { id := table.lastId + 1, cells } = .ok none := by
    rw [brokenCheck?, plain.bare]
    rfl
  have others : table.rows.filter (fun other => some other.id ≠ none) = table.rows := by
    rw [List.filter_eq_self]
    intro row _
    rfl
  have fresh : table.clashing? none { id := table.lastId + 1, cells } .id = .ok none := by
    simp only [clashing?, others, pure_eq_ok]
    congr 1
    rw [List.find?_eq_none]
    intro row member
    have least := plain.id_le_lastId member
    simp only [decide_eq_true_eq]
    omega
  have added : addRow { id := table.lastId + 1, cells } table.rows = (table.withRow cells).rows := by
    unfold addRow
    split
    · rename_i last lastAt
      have lastId : table.lastId = last.id := by simp [lastId, lastAt]
      have larger : last.id < table.lastId + 1 := by omega
      rw [if_pos larger]
      rfl
    · rename_i none
      rw [SqlTable.withRow, List.getLast?_eq_none_iff.mp none]
      rfl
  have settled := plain.calculated_eq { id := table.lastId + 1, cells } width
  have present := plain.present?_eq database none { id := table.lastId + 1, cells } width
  have keys := plain.keys_eq database databasePlain
  have noUpsert : ∀ key, table.upsertFor? [] key = none := fun _ => rfl
  simp only [settle, identified, settled, types, present, checked, keys, noUpsert, ok_bind,
    Option.isSome_none, List.filter_cons, List.filter_nil, Bool.false_eq_true, if_false, Bool.not_false,
    if_true, List.nil_append, settleKeys, fresh, others, added]
  rfl

/-- A plain column keeps the integers that it is given. -/
theorem storeIn_eq (plain : table.IsPlain) {column : ColumnDefinition} (member : column ∈ table.columns)
    (cell : Cell) (integer : cell = .null ∨ ∃ value, cell = .integer value) :
    table.storeIn column cell = cell := by
  have lax : table.strict = false := by rw [plain.bare]
  rw [storeIn, lax, Bool.false_and, if_neg Bool.false_ne_true, store, plain.affinity member]
  rcases integer with rfl | ⟨value, rfl⟩ <;> rfl

theorem newRow_eq (plain : table.IsPlain) (database : Database) (names : List Text)
    (values : List Cell) (integers : ∀ cell ∈ values, cell = .null ∨ ∃ value, cell = .integer value) :
    Insertion.newRow database table
        { columns := table.columns.map (Insertion.listedPosition? names), id := none } values =
      .ok (table.givenCells names values, .null) := by
  have pairs : table.columns.zip (table.columns.map (Insertion.listedPosition? names)) =
      table.columns.map fun column => (column, Insertion.listedPosition? names column) := by
    induction table.columns with
    | nil => rfl
    | cons column columns ih => rw [List.map_cons, List.zip_cons_cons, ih, List.map_cons]
  unfold Insertion.newRow
  simp only [pairs, List.mapM_map]
  rw [mapM_eq_ok_map _ (fun column => givenValue names values column.name) table.columns]
  · rfl
  · intro column member
    have value := givenValue_integers names values integers column.name
    have stored := plain.storeIn_eq member _ value
    have generated := plain.generated member
    have standard : standardValue database column = .ok .null := by
      obtain ⟨pair, rfl, _⟩ := plain.columns column member
      rfl
    unfold givenValue at stored ⊢
    simp only [Function.comp_apply, Insertion.listedPosition?]
    cases listed : names.findIdx? (sameName column.name) with
    | none =>
        rw [listed] at stored
        simp only [generated, Option.isSome_none, Bool.false_eq_true, if_false, standard, ok_bind,
          pure_eq_ok]
        exact congrArg Except.ok stored
    | some position =>
        rw [listed] at stored
        simp only [List.getD_eq_getElem?_getD, pure_eq_ok]
        exact congrArg Except.ok stored

end IsPlain

end SqlTable

namespace Insertion

theorem checkListed_eq (insertion : Insertion) (table : SqlTable) (plain : table.IsPlain)
    (isView : Bool) (name : Text) (known : (table.column? name).isSome = true) :
    insertion.checkListed table isView name = .ok () := by
  obtain ⟨column, found⟩ := Option.isSome_iff_exists.mp known
  have generated := plain.generated (List.mem_of_find?_eq_some found)
  simp [checkListed, found, generated]

theorem plan_eq (table : SqlTable) (plain : table.IsPlain) (shown : Text) (names : List Text)
    (known : ∀ name ∈ names, (table.column? name).isSome = true) :
    (SqlReader.plainInsertion shown names).plan { table } names.length =
      .ok { columns := table.columns.map (listedPosition? names), id := none } := by
  have noId : names.reverse.findIdx? (fun name =>
      (table.column? name).isNone || table.idColumn.any (sameName name)) = none := by
    have idColumn : table.idColumn = none := by rw [plain.bare]
    rw [List.findIdx?_eq_none_iff]
    intro name member
    have own := known name (List.mem_reverse.mp member)
    simp [idColumn, own]
  simp only [plan, SqlReader.plainInsertion, ne_eq, not_true_eq_false, if_false, noId, pure_eq_ok,
    Option.map_none]

end Insertion

/-- Values under the numbers of their places. -/
def numbered {Value : Type} (values : List Value) : List (Text × Value) :=
  (values.zipIdx 1).map fun entry => (Text.ofNat entry.2, entry.1)

/-- The value with a number, by induction on the values in front of it. -/
theorem find?_numbered {Value : Type} (values : List Value) (position : Nat) (value : Value)
    (valueAt : values[position]? = some value) :
    (numbered values).find? (fun entry => entry.1 == Text.ofNat (position + 1)) =
      some (Text.ofNat (position + 1), value) := by
  have from_ : ∀ start, ((values.zipIdx start).map fun entry => (Text.ofNat entry.2, entry.1)).find?
      (fun entry => entry.1 == Text.ofNat (start + position)) =
        some (Text.ofNat (start + position), value) := by
    induction values generalizing position with
    | nil => simp at valueAt
    | cons first values ih =>
        intro start
        rw [List.zipIdx_cons, List.map_cons]
        cases position with
        | zero =>
            obtain rfl : first = value := by simpa using valueAt
            simp
        | succ position =>
            have apart : (Text.ofNat start == Text.ofNat (start + (position + 1))) = false := by
              rw [beq_eq_false_iff_ne]
              intro same
              have numbers := Text.ofNat_injective _ _ same
              omega
            have later := ih position (by simpa using valueAt) (start + 1)
            rw [List.find?_cons_of_neg (by simp [apart])]
            rwa [show start + (position + 1) = start + 1 + position by omega]
  rw [numbered, Nat.add_comm position 1]
  exact from_ 1

/-- The row of numbered parameters. -/
theorem evaluate_parameters (around : Surroundings) (place : around.place = none) (count : Nat)
    (cells : List Cell) (width : cells.length = count)
    (given : around.checking = true ∧ (∀ cell ∈ cells, cell = .null) ∨
      around.checking = false ∧ around.parameters = numbered cells) :
    ∃ columns : List ScopeColumn, columns.length = count ∧
      (SqlQuery.values [(SqlToken.parameterNumbers count).map fun number =>
        .parameter (Text.ofNat number)]).evaluate around = .ok { columns, rows := [cells] } := by
  obtain ⟨fuel, depth⟩ : ∃ fuel, evaluationDepth = fuel + 2 := ⟨evaluationDepth - 2, rfl⟩
  have each : ∀ index ∈ List.range count,
      Evaluation.valueAt (fuel + 1) { around with group := none } (.parameter (Text.ofNat (index + 1))) =
        .ok (cells.getD index .null) := by
    intro index member
    have inside : index < cells.length := by rw [width]; exact List.mem_range.mp member
    have cellAt := List.getElem?_eq_getElem inside
    refine Evaluation.valueAt_parameter fuel _ _ _ place ?_
    rw [List.getD_eq_getElem?_getD, cellAt, Option.getD_some]
    rcases given with ⟨checking, nulls⟩ | ⟨checking, bound⟩
    · exact .inl ⟨checking, nulls _ (List.getElem_mem inside)⟩
    · refine .inr ⟨checking, ?_⟩
      rw [bound]
      exact find?_numbered cells index _ cellAt
  have row : (List.range count).map (fun index => cells.getD index .null) = cells := by
    refine List.ext_getElem? fun index => ?_
    rw [List.getElem?_map]
    by_cases inside : index < count
    · rw [List.getElem?_range inside, List.getElem?_eq_getElem (by omega)]
      simp [List.getElem?_eq_getElem (show index < cells.length by omega)]
    · rw [List.getElem?_eq_none (by simpa using inside), List.getElem?_eq_none (by omega)]
      rfl
  have read : (List.range count).mapM (fun index => Evaluation.valueAt (fuel + 1)
      { around with group := none } (.parameter (Text.ofNat (index + 1)))) = .ok cells := by
    rw [mapM_eq_ok_map _ (fun index => cells.getD index .null) _ each, row]
  refine ⟨(List.range cells.length).map fun position =>
    { name := ("column" : Text) ++ Text.ofNat (position + 1) }, by simp [width], ?_⟩
  rw [SqlQuery.evaluate, depth]
  unfold Evaluation.queryAt
  simp only [SqlToken.parameterNumbers, List.map_map, List.mapM_cons, List.mapM_nil, List.mapM_map,
    Function.comp_def] at read ⊢
  simp only [read, ok_bind, pure_eq_ok, List.head?_cons, Option.map_some, Option.getD_some,
    List.any_cons, List.any_nil, ne_eq, not_true_eq_false, decide_false, Bool.or_self,
    Bool.false_eq_true, if_false]

/-- A name stands for the same table in any case. -/
theorem Database.table?_congr (database : Database) {first second : Text}
    (same : sameName first second = true) : database.table? first = database.table? second := by
  unfold Database.table? sameName
  rw [(sameName_iff _ _).mp same]

namespace Change

/-- Where no trigger waits for an event, none is performed. -/
theorem fireDueAt_of_untriggered (fuel : Nat) (context : ChangeContext) (around : Surroundings)
    (target : ChangeTarget) (time : TriggerTime) (event : RowEvent) (frame : Frame)
    (untriggered : around.database.triggersFor target.table.name event = []) :
    fireDueAt (fuel + 1) context around target time event frame =
      .ok { database := around.database } := by
  unfold fireDueAt
  simp [untriggered]

/-- No trigger is performed in a plain database. -/
theorem fireDueAt_eq (fuel : Nat) (context : ChangeContext) (around : Surroundings)
    (plain : around.database.IsPlain) (target : ChangeTarget) (time : TriggerTime) (event : RowEvent)
    (frame : Frame) :
    fireDueAt (fuel + 1) context around target time event frame =
      .ok { database := around.database } :=
  fireDueAt_of_untriggered fuel context around target time event frame
    (by simp [Database.triggersFor, plain.triggers])

section Row

variable (around : Surroundings) (plain : around.database.IsPlain) {name : Text} {table : SqlTable}
  (found : around.database.table? name = some table) (names : List Text)

include plain found

theorem insertRowAt_eq (fuel : Nat) (context : ChangeContext) (values : List Cell)
    (integers : ∀ cell ∈ values, cell = .null ∨ ∃ value, cell = .integer value) :
    insertRowAt (fuel + 2) context around { table } (SqlReader.plainInsertion name names) none
        { columns := table.columns.map (Insertion.listedPosition? names), id := none } values =
      .ok (around.database.update table.name fun _ =>
        table.withRow (table.givenCells names values)) := by
  have tablePlain := plain.table found
  have named := Database.table?_some around.database name table found
  have again : around.database.table? table.name = some table := by
    rw [around.database.table?_congr named, found]
  have bare := tablePlain.bare
  have uncounted : table.counted = false := by rw [bare]
  have newId : around.database.newId table = table.lastId + 1 := by
    rw [Database.newId, uncounted, if_neg Bool.false_ne_true]
  have width : (table.givenCells names values).length = table.columns.length := by
    simp [SqlTable.givenCells]
  have cells : ∀ cell ∈ table.givenCells names values,
      cell = .null ∨ ∃ value, cell = .integer value := by
    intro cell member
    obtain ⟨column, _, rfl⟩ := List.mem_map.mp member
    exact SqlTable.givenValue_integers names values integers column.name
  have row := tablePlain.newRow_eq around.database names values integers
  have settled := tablePlain.settle_new around.database plain (table.givenCells names values) width
  have changed : (around.database.update table.name fun _ =>
      table.withRow (table.givenCells names values)).IsPlain :=
    plain.update (tablePlain.withRow _ width cells)
  have noUpserts : (SqlReader.plainInsertion name names).upserts = [] := rfl
  have before := fireDueAt_eq fuel context around plain
  have after := fireDueAt_eq fuel context { around with
    database := around.database.update table.name fun _ =>
      table.withRow (table.givenCells names values) } changed
  have missing : Cell.null.isNull = true := rfl
  have changedName : (table.withRow (table.givenCells names values)).name = table.name := rfl
  unfold insertRowAt
  simp only [row, ok_bind, missing, if_true, pure_eq_ok, Bool.false_eq_true, if_false, before,
    again, Option.getD_none, newId, noUpserts, settled, uncounted, after]

end Row

end Change

namespace Database

variable (database : Database) (plain : database.IsPlain) {name : Text} {table : SqlTable}
  (found : database.table? name = some table) (names : List Text)
  (known : ∀ name ∈ names, (table.column? name).isSome = true)

include found

theorem changeTarget_eq (event : RowEvent) :
    database.changeTarget false (SqlReader.plainObject name) event = .ok { table } := by
  simp [changeTarget, SqlReader.plainObject, isMain, found]

include plain known

theorem forIn_checkListed (insertion : Insertion) :
    forIn names () (fun name _ => do
      insertion.checkListed table false name
      .ok (.yield ())) = (.ok () : Except SqlRefusal Unit) := by
  refine forIn_goes_on names _ fun name member => ?_
  rw [insertion.checkListed_eq table (plain.table found) false name (known name member)]
  rfl

/-- A row of numbered parameters is put behind the others. -/
theorem performOnRows_insert (cells : List Cell) (width : cells.length = names.length)
    (integers : ∀ cell ∈ cells, cell = .null ∨ ∃ value, cell = .integer value) :
    database.performOnRows (numbered cells) false (.insert (SqlReader.plainInsertion name names)) =
      .ok ([], database.update table.name fun _ => table.withRow (table.givenCells names cells)) := by
  obtain ⟨fuel, depth⟩ : ∃ fuel, evaluationDepth = fuel + 4 := ⟨evaluationDepth - 4, rfl⟩
  let around := Evaluation.topmost database (numbered cells) false
  have target := database.changeTarget_eq found .insert
  have listed := database.forIn_checkListed plain found names known
  obtain ⟨columns, count, read⟩ := evaluate_parameters around rfl names.length cells width
    (.inr ⟨rfl, rfl⟩)
  have plan := Insertion.plan_eq table (plain.table found) name names known
  have row := Change.insertRowAt_eq around plain found names fuel {} cells integers
  have performed : Change.performAt evaluationDepth {} around
      (.insert (SqlReader.plainInsertion name names)) =
        .ok (database.update table.name fun _ => table.withRow (table.givenCells names cells)) := by
    have noResolution : ((none : Option Resolution) <|> none) = none := rfl
    rw [depth]
    unfold Change.performAt Change.insertAt
    simp only [around, Evaluation.topmost, SqlReader.plainInsertion] at target read plan row ⊢
    simp only [target, Option.getD_some, listed, read, ok_bind, count, plan, Bool.false_eq_true, if_false,
      List.foldlM_cons, List.foldlM_nil, noResolution, row, pure_eq_ok]
  simp only [performOnRows]
  rw [show ({ database, parameters := numbered cells, checking := false } : Surroundings) =
    around from rfl, performed]
  rfl

/-- The insertion of a row of parameters passes the check. -/
theorem performOnRows_insert_checking :
    database.performOnRows [] true (.insert (SqlReader.plainInsertion name names)) =
      .ok ([], database) := by
  obtain ⟨fuel, depth⟩ : ∃ fuel, evaluationDepth = fuel + 3 := ⟨evaluationDepth - 3, rfl⟩
  let around := Evaluation.topmost database [] true
  have target := database.changeTarget_eq found .insert
  have listed := database.forIn_checkListed plain found names known
  obtain ⟨columns, count, read⟩ := evaluate_parameters around rfl names.length
    (names.map fun _ => .null) (by simp) (.inl ⟨rfl, by simp⟩)
  have plan := Insertion.plan_eq table (plain.table found) name names known
  have row := (plain.table found).newRow_eq database names [] (by simp)
  have before := Change.fireDueAt_eq fuel {} around plain
  have performed : Change.performAt evaluationDepth {} around
      (.insert (SqlReader.plainInsertion name names)) = .ok database := by
    have noResolution : ((none : Option Resolution) <|> none) = none := rfl
    have noUpserts : Change.checkUpserts around { table } (SqlReader.plainInsertion name names) =
      .ok () := rfl
    have noReturning : ∀ row, Change.checkReturning around row [] = .ok () := fun _ => rfl
    rw [depth]
    unfold Change.performAt Change.insertAt
    simp only [around, Evaluation.topmost, SqlReader.plainInsertion] at target read plan before
    simp only [around, Evaluation.topmost, SqlReader.plainInsertion] at noUpserts noReturning ⊢
    simp only [target, Option.getD_some, listed, read, ok_bind, count, plan, if_true, noResolution, row, noUpserts,
      noReturning, pure_eq_ok, before]
  simp only [performOnRows]
  rw [show ({ database, parameters := [], checking := true } : Surroundings) = around from rfl,
    performed]
  rfl

end Database

end EventForge
