import EventForge.Proofs.Sql.DefinitionStatement
import EventForge.Sql.Connection

/-!
# Plain tables and indexes

When names are the same to a database, and when a table of columns with types is made.  What the name
of a column stands for on a row, and when an index on it is made.
-/

namespace EventForge

/-!
## Names in a database

Two names are the same to a database if they are the same in small letters.  What a name stands for
does not depend on the rows that the tables hold.
-/

theorem sameName_iff (first second : Text) :
    sameName first second = true ↔ first.toAsciiLower = second.toAsciiLower := by
  simp [sameName]

@[simp] theorem sameName_self (name : Text) : sameName name name = true :=
  (sameName_iff name name).mpr rfl

theorem sameName_comm (first second : Text) : sameName first second = sameName second first := by
  rw [Bool.eq_iff_iff, sameName_iff, sameName_iff, eq_comm]

theorem sameName_congr (first second other : Text) (same : sameName first second = true) :
    sameName first other = sameName second other := by
  rw [Bool.eq_iff_iff, sameName_iff, sameName_iff, (sameName_iff first second).mp same]

namespace Database

theorem isReserved_eq_false (name other : Text) (usable : Identifier.isUsable name = true)
    (same : sameName other name = true) : isReserved other = false := by
  have free := ((Identifier.isUsable_iff name).mp usable).2.2
  rw [isReserved, (sameName_iff other name).mp same]
  simpa using free

theorem master?_eq_none (name : Text) (usable : Identifier.isUsable name = true) :
    master? name = none := by
  have other : ∀ kept : Text, kept.toAsciiLower.startsWith "sqlite_" = true →
      sameName name kept = false := by
    intro kept begins
    rw [Bool.eq_false_iff]
    intro same
    have free := isReserved_eq_false name kept usable (by rw [sameName_comm, same])
    rw [isReserved, begins] at free
    exact absurd free (by decide)
  rw [master?, other "sqlite_master" (by decide), other "sqlite_schema" (by decide),
    other "sqlite_temp_master" (by decide), other "sqlite_temp_schema" (by decide)]
  rfl

theorem checkReadable_plainObject (ifAbsent : Bool) (name next : Text)
    (usable : Identifier.isUsable name = true) :
    checkReadable ifAbsent (SqlReader.plainObject name) next = .ok () := by
  have notIf := SqlToken.lower_ne_of_isUsable name "if" usable
    (by simp [SqlToken.askedWords, Text.ofString_inj])
  simp only [checkReadable, ObjectName.isOpening, SqlReader.plainObject, notIf, decide_false,
    Bool.false_and, Bool.and_false, Bool.false_eq_true, if_false]

theorem table?_some (database : Database) (name : Text) (table : SqlTable)
    (found : database.table? name = some table) : sameName table.name name = true := by
  simpa using List.find?_some found

@[simp] theorem table?_withoutRows (database : Database) (name : Text) :
    database.withoutRows.table? name =
      (database.table? name).map fun table => { table with rows := [] } := by
  simp only [table?, withoutRows, List.find?_map]
  rfl

@[simp] theorem index?_withoutRows (database : Database) (name : Text) :
    database.withoutRows.index? name = database.index? name := rfl

@[simp] theorem view?_withoutRows (database : Database) (name : Text) :
    database.withoutRows.view? name = database.view? name := rfl

end Database

/-!
## Making plain tables

A table that is made from columns with types has these columns and no rules.  Whether it is made
depends only on what its name stands for already.
-/

/-- The definition of a column with a type and nothing else. -/
def ColumnDefinition.plain (column : Text × Text) : ColumnDefinition :=
  { name := column.1, typeName := column.2 }

/-- A table of columns with types and nothing else. -/
def SqlTable.plain (name : Text) (columns : List (Text × Text)) : SqlTable :=
  { name, columns := columns.map ColumnDefinition.plain }

/-- What makes a table of columns with types, unless it is there. -/
def TableText.plain (name : Text) (columns : List (Text × Text)) : TableText :=
  { ifAbsent := true, name := SqlReader.plainObject name
    elements := SqlReader.columnElements columns, ending := .ok [] }

/-- Whether no two columns have the same name to a database. -/
def DistinctColumns (columns : List (Text × Text)) : Prop :=
  (columns.map fun column => column.1.toAsciiLower).Nodup

namespace TableDraft

theorem column?_plain (name : Text) (columns : List (Text × Text)) (column : Text)
    (absent : column.toAsciiLower ∉ columns.map fun other => other.1.toAsciiLower) :
    (SqlTable.plain name columns).column? column = none := by
  rw [SqlTable.column?, List.find?_eq_none]
  intro definition member
  obtain ⟨other, otherMember, rfl⟩ := List.mem_map.mp member
  rw [sameName_iff]
  intro same
  exact absent (List.mem_map.mpr ⟨other, otherMember, same⟩)

theorem add_plain (name : Text) (before : List (Text × Text)) (column : Text × Text)
    (absent : column.1.toAsciiLower ∉ before.map fun other => other.1.toAsciiLower) :
    add { table := SqlTable.plain name before } (.column column.1 column.2) =
      .ok { table := SqlTable.plain name (before ++ [column]) } := by
  have free := column?_plain name before column.1 absent
  simp only [add, free, Option.isSome_none, Bool.false_eq_true, if_false]
  simp [SqlTable.plain, ColumnDefinition.plain]

/-- Columns behind others are taken in one after the other. -/
theorem foldlM_laterElements (name : Text) (before columns : List (Text × Text))
    (distinct : DistinctColumns (before ++ columns)) :
    (SqlReader.laterElements columns).foldlM add { table := SqlTable.plain name before } =
      .ok { table := SqlTable.plain name (before ++ columns) } := by
  induction columns generalizing before with
  | nil => simp [SqlReader.laterElements]
  | cons column columns ih =>
      have absent : column.1.toAsciiLower ∉ before.map fun other => other.1.toAsciiLower := by
        intro member
        rw [DistinctColumns, List.map_append, List.map_cons] at distinct
        exact (List.nodup_append.mp distinct).2.2 _ member _ (by simp) rfl
      have others := ih (before ++ [column]) (by simpa using distinct)
      have remark : add { table := SqlTable.plain name before } .remark =
          .ok { table := SqlTable.plain name before } := rfl
      have first := add_plain name before column absent
      have elements : SqlReader.laterElements (column :: columns) =
          .remark :: .column column.1 column.2 :: SqlReader.laterElements columns := rfl
      rw [elements, List.foldlM_cons, remark, Outcome.ok_bind, List.foldlM_cons, first,
        Outcome.ok_bind, others, List.append_assoc, List.singleton_append]

theorem foldlM_columnElements (name : Text) (columns : List (Text × Text))
    (distinct : DistinctColumns columns) :
    (SqlReader.columnElements columns).foldlM add { table := { name, columns := [] } } =
      .ok { table := SqlTable.plain name columns } := by
  cases columns with
  | nil => rfl
  | cons column columns =>
      have first := add_plain name [] column (by simp)
      have others := foldlM_laterElements name [column] columns distinct
      have elements : SqlReader.columnElements (column :: columns) =
          .column column.1 column.2 :: SqlReader.laterElements columns := rfl
      have start : ({ name, columns := [] } : SqlTable) = SqlTable.plain name [] := rfl
      rw [elements, List.foldlM_cons, start, first, Outcome.ok_bind]
      exact others

theorem of_add_plain {name : Text} {before : List (Text × Text)} {column : Text × Text}
    {draft : TableDraft}
    (added : add { table := SqlTable.plain name before } (.column column.1 column.2) = .ok draft) :
    draft = { table := SqlTable.plain name (before ++ [column]) } := by
  simp only [add] at added
  split at added
  · cases added
  · rw [← Except.ok.inj added]
    simp [SqlTable.plain, ColumnDefinition.plain]

theorem of_foldlM_laterElements {name : Text} (columns : List (Text × Text))
    {before : List (Text × Text)} {draft : TableDraft}
    (made : (SqlReader.laterElements columns).foldlM add
      { table := SqlTable.plain name before } = .ok draft) :
    draft = { table := SqlTable.plain name (before ++ columns) } := by
  induction columns generalizing before with
  | nil => simpa [SqlReader.laterElements] using (Except.ok.inj made).symm
  | cons column columns ih =>
      have elements : SqlReader.laterElements (column :: columns) =
          .remark :: .column column.1 column.2 :: SqlReader.laterElements columns := rfl
      have remark : add { table := SqlTable.plain name before } .remark =
          .ok { table := SqlTable.plain name before } := rfl
      rw [elements, List.foldlM_cons, remark, Outcome.ok_bind, List.foldlM_cons] at made
      obtain ⟨next, added, made⟩ := (Outcome.bind_eq_ok_iff _ _ _).mp made
      obtain rfl := of_add_plain added
      simpa using ih made

/-- Columns that are taken in without a fault are those of the table. -/
theorem of_foldlM_columnElements {name : Text} {columns : List (Text × Text)} {draft : TableDraft}
    (made : (SqlReader.columnElements columns).foldlM add { table := { name, columns := [] } } =
      .ok draft) : draft = { table := SqlTable.plain name columns } := by
  cases columns with
  | nil => exact (Except.ok.inj made).symm
  | cons column columns =>
      have elements : SqlReader.columnElements (column :: columns) =
          .column column.1 column.2 :: SqlReader.laterElements columns := rfl
      have start : ({ name, columns := [] } : SqlTable) = SqlTable.plain name [] := rfl
      rw [elements, List.foldlM_cons, start] at made
      obtain ⟨next, added, made⟩ := (Outcome.bind_eq_ok_iff _ _ _).mp made
      obtain rfl := of_add_plain added
      exact of_foldlM_laterElements columns made

end TableDraft

namespace SqlTable

/-- Whether values can be given for a column. -/
def IsGiven (column : ColumnDefinition) : Prop := column.generated = none

theorem givenColumns_of_given (table : SqlTable)
    (given : ∀ column ∈ table.columns, IsGiven column) : table.givenColumns = table.columns := by
  rw [givenColumns, List.filter_eq_self]
  intro column member
  have own : column.generated = none := given column member
  rw [own]
  rfl

theorem isGiven_plain (name : Text) (columns : List (Text × Text)) :
    ∀ column ∈ (plain name columns).columns, IsGiven column := by
  intro definition member
  obtain ⟨column, _, rfl⟩ := List.mem_map.mp member
  rfl

theorem checkRules_of_given (table : SqlTable) (inhabited : table.columns ≠ [])
    (checks : table.checks = []) (given : ∀ column ∈ table.columns, IsGiven column) :
    table.checkRules = .ok () := by
  have nonempty : table.givenColumns.isEmpty = false := by
    rw [givenColumns_of_given table given]
    simpa using inhabited
  simp only [checkRules, nonempty, checks, Bool.false_eq_true, if_false, List.forIn_nil,
    Outcome.pure_eq_ok, Outcome.ok_bind]
  rw [Outcome.forIn_goes_on]
  · rfl
  · intro column member
    have own : column.generated = none := given column member
    rw [own]

theorem checkLoops_of_given (table : SqlTable)
    (given : ∀ column ∈ table.columns, IsGiven column) : table.checkLoops = .ok () := by
  have noLoop : (table.columns.flatMap (table.loopsFrom (table.columns.length + 1) [])) = [] := by
    rw [List.flatMap_eq_nil_iff]
    intro column member
    have own : column.generated = none := given column member
    simp [loopsFrom, own]
  rw [checkLoops, noLoop]
  rfl

end SqlTable

namespace Database

/-- What a name stands for where a table of this name is to be made unless it is there. -/
theorem isNewTable_plainObject (database : Database) (name : Text)
    (usable : Identifier.isUsable name = true) :
    database.isNewTable true (SqlReader.plainObject name) =
      if (database.table? name).isSome || (database.view? name).isSome then .ok false
      else if (database.index? name).isSome then .error (.indexNamed name)
      else .ok true := by
  have free := isReserved_eq_false name name usable (sameName_self name)
  cases table : (database.table? name).isSome <;> cases view : (database.view? name).isSome <;>
    cases index : (database.index? name).isSome <;>
    simp [isNewTable, checkNewTable, SqlReader.plainObject, free, table, view, index]

/-- A plain table is made if its name stands for nothing; it is left as it is if it is there. -/
theorem createTable_plain (database : Database) (name : Text) (columns : List (Text × Text))
    (usable : Identifier.isUsable name = true) (inhabited : columns ≠ [])
    (distinct : DistinctColumns columns) :
    database.createTable (.plain name columns) =
      if (database.table? name).isSome || (database.view? name).isSome then .ok database
      else if (database.index? name).isSome then .error (.indexNamed name)
      else .ok (database.addTable (SqlTable.plain name columns) []) := by
  have draft := TableDraft.foldlM_columnElements name columns distinct
  have rules := SqlTable.checkRules_of_given (SqlTable.plain name columns)
    (by simpa [SqlTable.plain] using inhabited) rfl (SqlTable.isGiven_plain name columns)
  have loops := SqlTable.checkLoops_of_given (SqlTable.plain name columns)
    (SqlTable.isGiven_plain name columns)
  have readable := checkReadable_plainObject true name "(" usable
  have new := isNewTable_plainObject database name usable
  have place : checkNewPlace (SqlReader.plainObject name) = .ok () := rfl
  have lasting : isPassing false (SqlReader.plainObject name) = false := rfl
  have noOptions : ∀ draft : TableDraft, draft.addOptions [] = .ok draft := by
    intro draft
    rfl
  have shown : (SqlReader.plainObject name).name = name := rfl
  simp only [createTable, TableText.plain, place, lasting, new, shown, draft, noOptions, rules, loops, readable,
    Outcome.ok_bind, Outcome.pure_eq_ok, Bool.false_eq_true, if_false]
  split
  · rfl
  · split <;> rfl

theorem addTable_withoutRows (database : Database) (name : Text) (columns : List (Text × Text)) :
    database.withoutRows.addTable (SqlTable.plain name columns) [] =
      (database.addTable (SqlTable.plain name columns) []).withoutRows := by
  simp [addTable, withoutRows, SqlTable.plain]

/-- Making a plain table does not depend on rows. -/
theorem createTable_withoutRows (database : Database) (name : Text)
    (columns : List (Text × Text)) (usable : Identifier.isUsable name = true)
    (inhabited : columns ≠ []) (distinct : DistinctColumns columns) :
    database.withoutRows.createTable (.plain name columns) =
      (database.createTable (.plain name columns)).map withoutRows := by
  rw [createTable_plain _ name columns usable inhabited distinct,
    createTable_plain _ name columns usable inhabited distinct, table?_withoutRows,
    Option.isSome_map, view?_withoutRows, index?_withoutRows, addTable_withoutRows]
  cases (database.table? name).isSome || (database.view? name).isSome with
  | true => simp [Except.map]
  | false =>
      cases (database.index? name).isSome with
      | true => simp [Except.map]
      | false => simp [Except.map]

end Database

/-!
## Columns on a row

On a row of a table whose columns differ, the name of a column stands for the cell at its place.
-/

/-- Whether no two columns that can be named have the same name to a database. -/
structure ScopeTable.IsDistinct (table : ScopeTable) : Prop where
  names : (table.columns.map fun column => column.name.toAsciiLower).Nodup
  single : ∀ column ∈ table.columns, column.repeated = false

/-- Whether the columns of a table differ and each row has a cell for each of them. -/
structure SqlTable.IsSound (table : SqlTable) : Prop where
  names : (table.columns.map fun column => column.name.toAsciiLower).Nodup
  cells : ∀ row ∈ table.rows, row.cells.length = table.columns.length

theorem ScopeTable.isDistinct_ofTable (table : SqlTable) (name : Text) (sound : table.IsSound) :
    (ofTable table name).IsDistinct := by
  constructor
  · simpa [ofTable, Function.comp_def] using sound.names
  · intro column member
    obtain ⟨definition, _, rfl⟩ := List.mem_map.mp member
    rfl

namespace ScopeRow

/-- The entries of a row that a name stands for, by induction on the columns: behind the column
with the name no other one has it. -/
theorem filter_zip (columns : List ScopeColumn) (cells : List Cell) (name : Text) (all : Bool)
    (names : (columns.map fun column => column.name.toAsciiLower).Nodup)
    (single : ∀ column ∈ columns, column.repeated = false) (position : Nat) (column : ScopeColumn)
    (cell : Cell) (columnAt : columns[position]? = some column)
    (cellAt : cells[position]? = some cell) (same : sameName column.name name = true) :
    ((columns.zip cells).filter fun entry =>
      sameName entry.1.name name && (all || !entry.1.repeated)) = [(column, cell)] := by
  induction columns generalizing cells position with
  | nil => simp at columnAt
  | cons first columns ih =>
      cases cells with
      | nil => simp at cellAt
      | cons firstCell cells =>
          rw [List.map_cons, List.nodup_cons] at names
          cases position with
          | zero =>
              obtain rfl : first = column := by simpa using columnAt
              obtain rfl : firstCell = cell := by simpa using cellAt
              have others : ((columns.zip cells).filter fun entry =>
                  sameName entry.1.name name && (all || !entry.1.repeated)) = [] := by
                rw [List.filter_eq_nil_iff]
                intro entry member
                have apart : entry.1.name.toAsciiLower ≠ first.name.toAsciiLower := by
                  intro equal
                  exact names.1 (List.mem_map.mpr ⟨entry.1, (List.of_mem_zip member).1, equal⟩)
                rw [sameName_iff] at same
                have other : sameName entry.1.name name = false := by
                  rw [Bool.eq_false_iff, ne_eq, sameName_iff, ← same]
                  exact apart
                simp [other]
              have shown := single first (by simp)
              simp [same, shown, others]
          | succ position =>
              have read := ih cells names.2 (fun other member => single other (by simp [member]))
                position (by simpa using columnAt) (by simpa using cellAt)
              have apart : sameName first.name name = false := by
                rw [Bool.eq_false_iff, ne_eq, sameName_iff, ← (sameName_iff _ _).mp same]
                intro equal
                have member := List.mem_of_getElem? (by simpa using columnAt)
                exact names.1 (List.mem_map.mpr ⟨column, member, equal.symm⟩)
              simpa [apart] using read

theorem matching_at (row : ScopeRow) (name : Text) (all : Bool) (distinct : row.table.IsDistinct)
    (position : Nat) (column : ScopeColumn) (cell : Cell)
    (columnAt : row.table.columns[position]? = some column)
    (cellAt : row.cells[position]? = some cell) (same : sameName column.name name = true) :
    row.matching name all = [{ column, cell }] := by
  rw [matching, filter_zip row.table.columns row.cells name all distinct.names distinct.single
    position column cell columnAt cellAt same]
  rfl

end ScopeRow

theorem Frame.find?_single (row : ScopeRow) (name : Text) (found : FoundColumn)
    (only : row.matching name false = [found]) : Frame.find? [row] [name] = .ok (some found) := by
  simp [Frame.find?, ScopeTable.isNamed, only]

/-- A name that no column of a row has stands for nothing, if the row has no number to name. -/
theorem Frame.find?_absent (row : ScopeRow) (name : Text)
    (absent : ∀ column ∈ row.table.columns, sameName column.name name = false)
    (numberless : row.table.hasIds = false) : Frame.find? [row] [name] = .ok none := by
  have nothing : row.matching name false = [] := by
    rw [ScopeRow.matching, List.map_eq_nil_iff, List.filter_eq_nil_iff]
    intro entry member
    simp [absent entry.1 (List.of_mem_zip member).1]
  simp [Frame.find?, ScopeTable.isNamed, nothing, numberless]

namespace Evaluation

/-- A name that stands for a column of the innermost row is evaluated to its cell. -/
theorem valueAt_column (fuel : Nat) (around : Surroundings) (frame : Frame) (frames : List Frame)
    (name : Text) (quoted : Bool) (found : FoundColumn) (innermost : around.frames = frame :: frames)
    (seen : frame.find? [name] = .ok (some found)) :
    valueAt (fuel + 1) around (.column [name] quoted) = .ok found.cell := by
  have path : around.pathOf [name] = [name] := by simp [Surroundings.pathOf]
  have here : around.find? [name] = .ok (some (.inl found)) := by
    simp [Surroundings.find?, innermost, seen]
  rw [valueAt]
  simp [path, here]

/-- A name that stands for nothing on the only row is refused, unless it is that of a truth value. -/
theorem valueAt_column_absent (fuel : Nat) (around : Surroundings) (frame : Frame)
    (name : Text) (only : around.frames = [frame]) (noAlias : around.aliases = [])
    (seen : frame.find? [name] = .ok none) (noTruth : SqlExpression.truthOf? name = none) :
    valueAt (fuel + 1) around (.column [name] false) = .error (.noColumn [name]) := by
  have path : around.pathOf [name] = [name] := by simp [Surroundings.pathOf]
  have here : around.find? [name] = .ok none := by
    simp [Surroundings.find?, only, seen, noAlias, Surroundings.findOuter?]
  rw [valueAt]
  simp [path, here, noTruth]

end Evaluation

namespace SqlTable

/-- A column is evaluated to the cell at its place in the rules of a table. -/
theorem evaluate_rule (table : SqlTable) (place : RestrictedPlace) (row : SqlRow) (checking : Bool)
    (name : Text) (sound : table.IsSound) (position : Nat) (column : ColumnDefinition) (cell : Cell)
    (columnAt : table.columns[position]? = some column) (cellAt : row.cells[position]? = some cell)
    (same : sameName column.name name = true) :
    (SqlExpression.column [name] false).evaluate
      { table.ruleSurroundings place row with checking } = .ok cell := by
  obtain ⟨fuel, depth⟩ : ∃ fuel, evaluationDepth = fuel + 1 := ⟨evaluationDepth - 1, rfl⟩
  let scope := ScopeTable.ofTable table table.name
  have distinct := ScopeTable.isDistinct_ofTable table table.name sound
  have scopeAt : scope.columns[position]? = some
      { name := column.name, affinity := some column.affinity, collation := column.collation
        typeName := column.listedType } := by
    simp [scope, ScopeTable.ofTable, columnAt]
  have only := ScopeRow.matching_at
    { table := { scope with hasIds := scope.hasIds && place = .checks }
      cells := row.cells, id := some row.id } name false
    ⟨distinct.names, distinct.single⟩ position _ cell scopeAt cellAt same
  rw [SqlExpression.evaluate, depth]
  exact Evaluation.valueAt_column fuel _ _ [] name false _ rfl (Frame.find?_single _ name _ only)

end SqlTable

/-!
## Making plain indexes

An index on a column of a table is made if its name stands for nothing.  It is left as it is if an
index has the name, and refused if a table has it.
-/

/-- An index on a column of a table. -/
def SqlIndex.plain (name table column : Text) (collation : Collation) : SqlIndex :=
  { name, table, terms := [{ value := .column [column] false, collation }] }

/-- What makes an index on a column of a table, unless it is there. -/
def IndexText.plain (name table column : Text) : IndexText :=
  { ifAbsent := true, name := SqlReader.plainObject name, table
    terms := [.by (.column [column] false) false none] }

namespace SqlTable

/-- Every row has a cell in a column of a table. -/
theorem exists_cell (table : SqlTable) (row : SqlRow) (position : Nat) (column : ColumnDefinition)
    (columnAt : table.columns[position]? = some column)
    (width : row.cells.length = table.columns.length) :
    ∃ cell, row.cells[position]? = some cell := by
  obtain ⟨short, _⟩ := List.getElem?_eq_some_iff.mp columnAt
  exact ⟨row.cells[position], List.getElem?_eq_getElem (by omega)⟩

theorem checkRule_column (table : SqlTable) (name : Text) (sound : table.IsSound) (position : Nat)
    (column : ColumnDefinition) (columnAt : table.columns[position]? = some column)
    (same : sameName column.name name = true) :
    table.checkRule .indexes (.column [name] false) = .ok () := by
  have value := table.evaluate_rule .indexes
    { id := 0, cells := table.columns.map fun _ => .null } true name sound position column .null
    columnAt (by rw [List.getElem?_map, columnAt]; rfl) same
  rw [checkRule, SqlExpression.check, value]
  rfl

/-- A name that can stand in an index is that of a column, unless it stands for a truth value. -/
theorem exists_column_of_checkRule {table : SqlTable} {name : Text}
    (passed : table.checkRule .indexes (.column [name] false) = .ok ())
    (noTruth : SqlExpression.truthOf? name = none) :
    ∃ column ∈ table.columns, sameName column.name name = true := by
  by_contra absent
  obtain ⟨fuel, depth⟩ : ∃ fuel, evaluationDepth = fuel + 1 := ⟨evaluationDepth - 1, rfl⟩
  have unseen : Frame.find? [{ table := { ScopeTable.ofTable table table.name with hasIds := false }
                               cells := table.columns.map fun _ => .null, id := some 0 }] [name] =
      .ok none := by
    refine Frame.find?_absent _ name ?_ rfl
    intro column member
    obtain ⟨definition, listed, rfl⟩ := List.mem_map.mp member
    rw [Bool.eq_false_iff]
    exact fun same => absent ⟨definition, listed, same⟩
  have numberless : ((ScopeTable.ofTable table table.name).hasIds &&
      decide (RestrictedPlace.indexes = .checks)) = false := by simp
  have refused := Evaluation.valueAt_column_absent fuel
    { table.ruleSurroundings .indexes { id := 0, cells := table.columns.map fun _ => .null } with
      checking := true } _ name rfl rfl (by rw [numberless]; exact unseen) noTruth
  rw [checkRule, SqlExpression.check, SqlExpression.evaluate, depth, refused] at passed
  cases passed

theorem indexKey?_column (table : SqlTable) (index name : Text) (collation : Collation)
    (row : SqlRow) (sound : table.IsSound) (position : Nat) (column : ColumnDefinition)
    (columnAt : table.columns[position]? = some column) (same : sameName column.name name = true)
    (width : row.cells.length = table.columns.length) :
    ∃ cell, table.indexKey? (.plain index table.name name collation) row = .ok (some [cell]) := by
  obtain ⟨cell, cellAt⟩ := table.exists_cell row position column columnAt width
  have value := table.evaluate_rule .indexes row false name sound position column cell columnAt
    cellAt same
  refine ⟨cell, ?_⟩
  simp only [indexKey?, SqlIndex.plain, Outcome.pure_eq_ok, Outcome.ok_bind, Bool.not_true,
    Bool.false_eq_true, if_false, List.mapM_cons, List.mapM_nil]
  rw [show table.ruleSurroundings .indexes row =
      { table.ruleSurroundings .indexes row with checking := false } from rfl, value]
  rfl

end SqlTable

namespace Database

theorem checkIndex_plain (table : SqlTable) (index name : Text) (collation : Collation)
    (sound : table.IsSound) (position : Nat) (column : ColumnDefinition)
    (columnAt : table.columns[position]? = some column) (same : sameName column.name name = true) :
    checkIndex table (.plain index table.name name collation) = .ok () := by
  have keys : ∀ rows : List SqlRow, (∀ row ∈ rows, row.cells.length = table.columns.length) →
      ∃ keys, rows.filterMapM (table.indexKey? (.plain index table.name name collation)) =
        .ok keys := by
    intro rows widths
    induction rows with
    | nil => exact ⟨[], rfl⟩
    | cons row rows ih =>
        obtain ⟨cell, own⟩ := table.indexKey?_column index name collation row sound position column
          columnAt same (widths row (by simp))
        obtain ⟨others, read⟩ := ih fun other member => widths other (by simp [member])
        exact ⟨[cell] :: others, by simp [List.filterMapM_cons, own, read]⟩
  obtain ⟨keys, read⟩ := keys table.rows sound.cells
  have free : (SqlIndex.plain index table.name name collation).unique = false := rfl
  simp only [checkIndex, read, free, Outcome.ok_bind, Bool.false_eq_true, if_false]
  rfl

/-- An index on a column of a table that is there. -/
theorem createIndex_plain (database : Database) (index name column : Text) (table : SqlTable)
    (indexUsable : Identifier.isUsable index = true) (usable : Identifier.isUsable name = true)
    (found : database.table? name = some table) (sound : table.IsSound) (position : Nat)
    (definition : ColumnDefinition) (columnAt : table.columns[position]? = some definition)
    (same : sameName definition.name column = true) :
    database.createIndex (.plain index name column) =
      if (database.table? index).isSome || (database.view? index).isSome then
        .error (.tableNamed index)
      else if (database.index? index).isSome then .ok database
      else .ok { database with
        indexes := database.indexes ++
          [.plain index table.name column
            (((table.column? column).map (·.collation)).getD .binary)] } := by
  have named := table?_some database name table found
  have tableFree := isReserved_eq_false name table.name usable named
  have indexFree := isReserved_eq_false index index indexUsable (sameName_self index)
  have rule := table.checkRule_column column sound position definition columnAt same
  have readable := checkReadable_plainObject true index "ON" indexUsable
  have covered := checkIndex_plain table index column
    (((table.column? column).map (·.collation)).getD .binary) sound position definition columnAt
    same
  have term : TableDraft.indexTerm table (.by (.column [column] false) false none) =
      { value := .column [column] false
        collation := ((table.column? column).map (·.collation)).getD .binary } := rfl
  rw [SqlIndex.plain] at covered
  simp only [createIndex, IndexText.plain, SqlReader.plainObject] at readable ⊢
  have notNull : TableDraft.checkNulls [.by (.column [column] false) false none] = .ok () := rfl
  simp [found, tableFree, indexFree, notNull, term, rule, readable, covered, SqlIndex.plain]

/-- Making a plain index does not depend on rows. -/
theorem createIndex_withoutRows (database : Database) (index name column : Text) (table : SqlTable)
    (indexUsable : Identifier.isUsable index = true) (usable : Identifier.isUsable name = true)
    (found : database.table? name = some table) (sound : table.IsSound) (position : Nat)
    (definition : ColumnDefinition) (columnAt : table.columns[position]? = some definition)
    (same : sameName definition.name column = true) :
    database.withoutRows.createIndex (.plain index name column) =
      (database.createIndex (.plain index name column)).map withoutRows := by
  rw [createIndex_plain _ index name column table indexUsable usable found sound position
    definition columnAt same, createIndex_plain _ index name column { table with rows := [] }
    indexUsable usable (by simp [found]) ⟨sound.names, by simp⟩ position definition columnAt same,
    table?_withoutRows, Option.isSome_map, view?_withoutRows, index?_withoutRows]
  cases (database.table? index).isSome || (database.view? index).isSome with
  | true => simp [Except.map]
  | false =>
      cases (database.index? index).isSome with
      | true => simp [Except.map]
      | false => simp [Except.map, withoutRows, SqlTable.column?]

end Database

end EventForge
