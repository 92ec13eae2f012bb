import EventForge.Proofs.Sql.Connection
import EventForge.Store.Migration

/-!
# Migrating one table

A database that holds the tables of some targets and the indexes on their times takes in another
target exactly if its table and its index find their names free.
-/

/-!
## The statements of a migration

Each text that a migration executes is spelled from tokens and read as the statement that it is
meant to be: the table is made, a column is added, and the index on its time is made.
-/

namespace EventForge

open SqlToken

namespace Migration

/-- Whether the names of a target are plain identifiers and its types known. -/
structure Target.IsPlain (target : Target) : Prop where
  table : Identifier.isPlain target.table = true
  columns : ∀ column ∈ target.columns, Identifier.isPlain column.1 = true
  types : ∀ column ∈ target.columns, IsColumnType column.2
  timeColumn : Identifier.isPlain target.timeColumn = true

/-- Whether the names of a target are plain and usable and its types known. -/
structure Target.IsNamed (target : Target) : Prop where
  table : IsName target.table
  inhabited : target.columns ≠ []
  columns : ∀ column ∈ target.columns, IsName column.1
  types : ∀ column ∈ target.columns, IsColumnType column.2
  timeColumn : IsName target.timeColumn

theorem Target.IsNamed.isPlain {target : Target} (named : target.IsNamed) : target.IsPlain :=
  ⟨named.table.plain, fun column member => (named.columns column member).plain, named.types,
    named.timeColumn.plain⟩

/-- Whether the names of a target are plain identifiers and its types usable ones. -/
structure Target.IsSpelled (target : Target) : Prop where
  table : Identifier.isPlain target.table = true
  columns : ∀ column ∈ target.columns, Identifier.isPlain column.1 = true
  types : ∀ column ∈ target.columns, IsName column.2
  timeColumn : Identifier.isPlain target.timeColumn = true

/-- Whether the names and the types of a target are plain and usable. -/
structure Target.IsUsable (target : Target) : Prop where
  table : IsName target.table
  columns : ∀ column ∈ target.columns, IsName column.1
  types : ∀ column ∈ target.columns, IsName column.2
  timeColumn : IsName target.timeColumn

theorem Target.IsPlain.isSpelled {target : Target} (plain : target.IsPlain) : target.IsSpelled :=
  ⟨plain.table, plain.columns,
    fun column member => isName_of_isColumnType (plain.types column member), plain.timeColumn⟩

theorem Target.IsUsable.isSpelled {target : Target} (usable : target.IsUsable) :
    target.IsSpelled :=
  ⟨usable.table.plain, fun column member => (usable.columns column member).plain, usable.types,
    usable.timeColumn.plain⟩

theorem Target.IsNamed.isUsable {target : Target} (named : target.IsNamed) : target.IsUsable :=
  ⟨named.table, named.columns,
    fun column member => isName_of_isColumnType (named.types column member), named.timeColumn⟩

theorem isName_time : IsName "time" := ⟨by decide, Identifier.isUsable_time⟩

/-- A target with its types as they are kept. -/
def Target.kept (target : Target) : Target :=
  { target with columns := target.columns.map SqlReader.kept }

theorem Target.IsNamed.kept_eq {target : Target} (named : target.IsNamed) : target.kept = target := by
  rw [Target.kept, SqlReader.map_kept target.columns named.types]

/-- The definition of the table of a target. -/
def Target.tableText (target : Target) : TableText := .plain target.table target.columns

/-- The definition of the index of a target. -/
def Target.indexText (target : Target) : IndexText :=
  .plain (indexName target) target.table target.timeColumn

/-- The tokens that make a table. -/
def createTableTokens (target : Target) : List SqlToken :=
  ofWord [] "CREATE" :: ofWord blank "TABLE" :: ofWord blank "IF" :: ofWord blank "NOT" ::
    ofWord blank "EXISTS" :: ofWord blank target.table :: opening blank ::
    (listed ofColumn target.columns ++ [closing])

/-- The tokens that make an index. -/
def createIndexTokens (target : Target) : List SqlToken :=
  [ofWord [] "CREATE", ofWord blank "INDEX", ofWord blank "IF", ofWord blank "NOT",
    ofWord blank "EXISTS", ofWord blank (indexName target), ofWord blank "ON",
    ofWord blank target.table, opening blank, ofWord [] target.timeColumn, closing]

/-- The tokens that add a column. -/
def addColumnTokens (table : Text) (column : Text × Text) : List SqlToken :=
  ofWord [] "ALTER" :: ofWord blank "TABLE" :: ofWord blank table :: ofWord blank "ADD" ::
    ofWord blank "COLUMN" :: ofColumn blank column

theorem indexName_eq (target : Target) :
    indexName target = ("idx_" : Text) ++ (target.table ++ (("_" : Text) ++ target.timeColumn)) := by
  simp [indexName]

/-- Behind its first letters the name of an index is made of those of its table and its column. -/
theorem isLater_indexName (target : Target) (spelled : target.IsSpelled) :
    ∀ point ∈ target.table ++ (("_" : Text) ++ target.timeColumn),
      Identifier.isLater point = true := by
  intro point member
  simp only [List.mem_append] at member
  rcases member with member | member | member
  · exact Identifier.isLater_of_isPlain _ spelled.table point member
  · obtain rfl := List.mem_singleton.mp member
    decide
  · exact Identifier.isLater_of_isPlain _ spelled.timeColumn point member

theorem isName_indexName (target : Target) (spelled : target.IsSpelled) :
    IsName (indexName target) := by
  have later := isLater_indexName target spelled
  rw [indexName_eq]
  exact ⟨Identifier.isPlain_append "idx_" _ (by decide) later, Identifier.isUsable_idx _ later⟩

theorem variableNames_listed_ofColumn (columns : List (Text × Text)) :
    variableNames (listed ofColumn columns) = [] := by
  cases columns with
  | nil => rfl
  | cons column columns =>
      have behind : variableNames (listedBehind ofColumn columns) = [] := by
        induction columns with
        | nil => rfl
        | cons column columns ih => simpa [listedBehind, ofColumn, comma] using ih
      simp [listed, ofColumn, behind]

theorem spells_createTableTokens (target : Target) (spelled : target.IsSpelled) :
    Spells (createTableTokens target) := by
  have columns : Spells (listed ofColumn target.columns ++ [closing]) :=
    spells_listed ofColumn target.columns [closing]
      (fun column member before later spaced spelledLater ends =>
        spells_ofColumn column (spelled.columns column member) (spelled.types column member).plain
          before later spaced spelledLater ends)
      (spells_closing [] .nil) (endsVariable_closing [])
  have table : Spells (ofWord blank target.table :: opening blank ::
      (listed ofColumn target.columns ++ [closing])) :=
    .word (Or.inr rfl) spelled.table (endsWord_opening blank (Or.inr rfl) _)
      (spells_opening blank (Or.inr rfl) _ columns)
  exact spells_word _ _ _ _ (Or.inl rfl) (by decide) <|
    spells_word _ _ _ _ (Or.inr rfl) (by decide) <|
    spells_word _ _ _ _ (Or.inr rfl) (by decide) <|
    spells_word _ _ _ _ (Or.inr rfl) (by decide) <|
    spells_word _ _ _ _ (Or.inr rfl) (by decide) table

theorem createTableText_eq (target : Target) :
    createTableText target = spell (createTableTokens target) := by
  have columns := spell_listed ofColumn (fun column => column.1 ++ " " ++ column.2)
    spell_ofColumn target.columns
  simp only [createTableTokens, spell_cons, spell_append, columns]
  simp [createTableText, ofWord, opening, closing, ofSymbol]
  rfl

/-- The text that makes the table of a target is read so. -/
theorem ofText_createTable_kept (target : Target) (usable : target.IsUsable)
    (inhabited : target.columns ≠ []) :
    FirstStatement.ofText (spell (createTableTokens target)) =
      .ok { statement := .createTable target.kept.tableText
            tokens := createTableTokens target } := by
  have noVariables : variableNames (createTableTokens target) = [] := by
    simp [createTableTokens, opening, closing, variableNames_listed_ofColumn]
  have read := FirstStatement.ofText_spell _ _ (spells_createTableTokens target usable.isSpelled)
    (by simp [createTableTokens])
    (SqlReader.statement_createTable target.table target.columns usable.table inhabited
      usable.columns usable.types)
    (by simp [noVariables]) (by simp)
  rw [read, noVariables]
  rfl

theorem ofText_createTable (target : Target) (named : target.IsNamed) :
    FirstStatement.ofText (spell (createTableTokens target)) =
      .ok { statement := .createTable target.tableText, tokens := createTableTokens target } := by
  rw [ofText_createTable_kept target named.isUsable named.inhabited, named.kept_eq]

/-- The text that makes a table without columns is read as a broken one. -/
theorem ofText_createTable_nil (target : Target) (usable : target.IsUsable)
    (none : target.columns = []) :
    ∃ fault, FirstStatement.ofText (spell (createTableTokens target)) =
      .ok { statement := .createTable { target.tableText with ending := .error fault }
            tokens := createTableTokens target } := by
  obtain ⟨fault, read⟩ := SqlReader.statement_createTable_nil target.table usable.table
  have tokens : createTableTokens target = [ofWord [] "CREATE", ofWord blank "TABLE",
      ofWord blank "IF", ofWord blank "NOT", ofWord blank "EXISTS", ofWord blank target.table,
      opening blank, closing] := by
    rw [createTableTokens, none]
    rfl
  have elements : SqlReader.columnElements target.columns = [] := by rw [none]; rfl
  refine ⟨fault, ?_⟩
  have spelled := spells_createTableTokens target usable.isSpelled
  rw [Target.tableText, TableText.plain, elements]
  rw [tokens] at spelled ⊢
  exact FirstStatement.ofText_spell _ _ spelled (by simp) read (by simp [opening, closing]) (by simp)

theorem spells_createIndexTokens (target : Target) (spelled : target.IsSpelled) :
    Spells (createIndexTokens target) := by
  have index := isName_indexName target spelled
  have column : Spells [ofWord [] target.timeColumn, closing] :=
    .word (Or.inl rfl) spelled.timeColumn
      (endsWord_of_endsVariable _ (endsVariable_closing [])) (spells_closing [] .nil)
  have table : Spells [ofWord blank target.table, opening blank, ofWord [] target.timeColumn,
      closing] :=
    .word (Or.inr rfl) spelled.table (endsWord_opening blank (Or.inr rfl) _)
      (spells_opening blank (Or.inr rfl) _ column)
  exact spells_word _ _ _ _ (Or.inl rfl) (by decide) <|
    spells_word _ _ _ _ (Or.inr rfl) (by decide) <|
    spells_word _ _ _ _ (Or.inr rfl) (by decide) <|
    spells_word _ _ _ _ (Or.inr rfl) (by decide) <|
    spells_word _ _ _ _ (Or.inr rfl) (by decide) <|
    spells_word _ _ _ _ (Or.inr rfl) index.plain <|
    spells_word _ _ _ _ (Or.inr rfl) (by decide) table

theorem createIndexText_eq (target : Target) :
    createIndexText target = spell (createIndexTokens target) := by
  simp [createIndexText, createIndexTokens, ofWord, opening, closing, ofSymbol]
  rfl

/-- The text that makes the index of a target is read so. -/
theorem ofText_createIndex (target : Target) (usable : target.IsUsable) :
    FirstStatement.ofText (spell (createIndexTokens target)) =
      .ok { statement := .createIndex target.indexText, tokens := createIndexTokens target } :=
  FirstStatement.ofText_spell _ _ (spells_createIndexTokens target usable.isSpelled)
    (by simp [createIndexTokens])
    (SqlReader.statement_createIndex _ _ _ (isName_indexName target usable.isSpelled) usable.table
      usable.timeColumn)
    (by simp [createIndexTokens, opening, closing]) (by simp)

theorem spells_addColumnTokens (table : Text) (column : Text × Text)
    (plain : Identifier.isPlain table = true) (columnPlain : Identifier.isPlain column.1 = true)
    (type : Identifier.isPlain column.2 = true) (later : List SqlToken)
    (spelled : Spells later) (ends : EndsVariable (spell later)) :
    Spells (addColumnTokens table column ++ later) := by
  have added : Spells (ofColumn blank column ++ later) :=
    spells_ofColumn column columnPlain type blank later (Or.inr rfl) spelled ends
  exact spells_word _ _ _ _ (Or.inl rfl) (by decide) <|
    spells_word _ _ _ _ (Or.inr rfl) (by decide) <|
    spells_word _ _ _ _ (Or.inr rfl) plain <|
    spells_word _ _ _ _ (Or.inr rfl) (by decide) <|
    spells_word _ _ _ _ (Or.inr rfl) (by decide) added

theorem addColumnText_eq (table : Text) (column : Text × Text) :
    addColumnText table column = spell (addColumnTokens table column) := by
  simp only [addColumnTokens, spell_cons, spell_ofColumn]
  simp [addColumnText, ofWord]
  rfl

/-- The text that adds a column ends within no remark. -/
theorem isOpen_addColumnTokens (table : Text) (column : Text × Text)
    (plain : Identifier.isPlain table = true) (columnPlain : Identifier.isPlain column.1 = true)
    (type : Identifier.isPlain column.2 = true) :
    FirstStatement.isOpen (spell (addColumnTokens table column)) = false := by
  have closed := spells_addColumnTokens table column plain columnPlain type [closing]
    (spells_closing [] .nil) (endsVariable_closing [])
  have last : ∃ front point, column.2 = front ++ [point] ∧ Identifier.isLater point = true := by
    have later := Identifier.isLater_of_isPlain column.2 type
    rcases List.eq_nil_or_concat column.2 with empty | ⟨front, point, split⟩
    · rw [empty] at type
      cases type
    · rw [List.concat_eq_append] at split
      exact ⟨front, point, split, later point (by simp [split])⟩
  obtain ⟨front, point, ending, later⟩ := last
  have ended : spell (addColumnTokens table column) =
      (("ALTER TABLE " : Text) ++ table ++ " ADD COLUMN " ++ column.1 ++ " " ++ front) ++
        [point] := by
    rw [← addColumnText_eq, addColumnText, ending]
    simp
  exact FirstStatement.isOpen_spell _ _ point closed ended later

/-- The text that adds a column is read so. -/
theorem ofText_addColumn_kept (table : Text) (column : Text × Text) (named : IsName table)
    (columnNamed : IsName column.1) (type : IsName column.2) :
    FirstStatement.ofText (spell (addColumnTokens table column)) =
      .ok { statement := .addColumn (SqlReader.plainObject table)
              [.column (SqlReader.kept column).1 (SqlReader.kept column).2] none false
            tokens := addColumnTokens table column } := by
  have spelled := spells_addColumnTokens table column named.plain columnNamed.plain type.plain []
    .nil (by simp [EndsVariable])
  rw [List.append_nil] at spelled
  exact FirstStatement.ofText_spell_addColumn _ _ _ spelled (by simp [addColumnTokens])
    (SqlReader.statement_addColumn table column named columnNamed type)
    (by simp [addColumnTokens, ofColumn])
    (isOpen_addColumnTokens table column named.plain columnNamed.plain type.plain)

theorem ofText_addColumn (table : Text) (column : Text × Text) (named : IsName table)
    (columnNamed : IsName column.1) (type : IsColumnType column.2) :
    FirstStatement.ofText (spell (addColumnTokens table column)) =
      .ok { statement := .addColumn (SqlReader.plainObject table) [.column column.1 column.2] none
              false
            tokens := addColumnTokens table column } := by
  rw [ofText_addColumn_kept table column named columnNamed (isName_of_isColumnType type),
    SqlReader.kept_eq column type]

/-!
## The tables of targets
-/

/-- The table of a target with some rows. -/
def Target.tableWith (target : Target) (rows : List SqlRow) : SqlTable :=
  { SqlTable.plain target.table target.columns with rows }

/-- The index on the time of a target. -/
def Target.index (target : Target) : SqlIndex :=
  .plain (indexName target) target.table target.timeColumn .binary

/-- Whether a target can be migrated at all: its columns differ and hold its time. -/
structure Target.IsProper (target : Target) : Prop extends target.IsNamed where
  distinct : DistinctColumns target.columns
  timed : ∃ column ∈ target.columns, column.1 = target.timeColumn

/-- Whether a database holds the tables of some targets with given rows, the indexes on their times,
and nothing else. -/
structure Holds (database : Database) (targets : List Target) (rows : Text → List SqlRow) :
    Prop where
  tables : database.tables = targets.map fun target => target.tableWith (rows target.table)
  indexes : database.indexes = targets.map Target.index
  views : database.views = []
  triggers : database.triggers = []

theorem holds_of_sameContent {first second : Database} (same : first.SameContent second)
    {targets : List Target} {rows : Text → List SqlRow} (holds : Holds second targets rows) :
    Holds first targets rows :=
  ⟨same.tables.trans holds.tables, same.indexes.trans holds.indexes,
    same.views.trans holds.views, same.triggers.trans holds.triggers⟩

theorem holds_empty (rows : Text → List SqlRow) : Holds Database.empty [] rows :=
  ⟨rfl, rfl, rfl, rfl⟩

section Lookup

variable {database : Database} {targets : List Target} {rows : Text → List SqlRow}

theorem table?_eq_none_iff (holds : Holds database targets rows) (name : Text) :
    database.table? name = none ↔ ∀ target ∈ targets, sameName target.table name = false := by
  rw [Database.table?, holds.tables, List.find?_eq_none]
  simp [Target.tableWith, SqlTable.plain]

theorem index?_eq_none_iff (holds : Holds database targets rows) (name : Text) :
    database.index? name = none ↔
      ∀ target ∈ targets, sameName (indexName target) name = false := by
  rw [Database.index?, holds.indexes, List.find?_eq_none]
  simp [Target.index, SqlIndex.plain]

theorem view?_eq_none (holds : Holds database targets rows) (name : Text) :
    database.view? name = none := by
  rw [Database.view?, holds.views]
  rfl

end Lookup

/-- The text that makes a table does so on a connection. -/
theorem execute_createTable (connection : Connection) (ready : connection.IsReady)
    (target : Target) (proper : target.IsProper) :
    connection.execute (createTableText target) [] =
      ((connection.database.createTable target.tableText).mapError SqlFault.refused).map
        fun database =>
        ([], { connection with
          database := connection.database.recorded (createTableTokens target)
            (.createTable target.tableText) database }) := by
  rw [createTableText_eq]
  exact Connection.execute_definition connection ready _
    (spells_createTableTokens target proper.isPlain.isSpelled) _
    (ofText_createTable target proper.toIsNamed) (fun _ => rfl) rfl
    (Database.createTable_withoutRows _ _ _ proper.table.usable proper.inhabited proper.distinct)

/-- The text that makes an index does so on a connection. -/
theorem execute_createIndex (connection : Connection) (ready : connection.IsReady)
    (target : Target) (named : target.IsNamed) (table : SqlTable)
    (found : connection.database.table? target.table = some table) (sound : table.IsSound)
    (position : Nat) (definition : ColumnDefinition)
    (columnAt : table.columns[position]? = some definition)
    (same : sameName definition.name target.timeColumn = true) :
    connection.execute (createIndexText target) [] =
      ((connection.database.createIndex target.indexText).mapError SqlFault.refused).map
        fun database =>
        ([], { connection with
          database := connection.database.recorded (createIndexTokens target)
            (.createIndex target.indexText) database }) := by
  rw [createIndexText_eq]
  exact Connection.execute_definition connection ready _
    (spells_createIndexTokens target named.isPlain.isSpelled) _
    (ofText_createIndex target named.isUsable) (fun _ => rfl) rfl
    (Database.createIndex_withoutRows _ _ _ _ table (isName_indexName target named.isPlain.isSpelled).usable
      named.table.usable found sound position definition columnAt same)

theorem sameName_indexName (target : Target) :
    sameName target.table (indexName target) = false := by
  rw [Bool.eq_false_iff, ne_eq, sameName_iff]
  intro same
  have lengths := congrArg List.length same
  have lead : ("idx_" : Text).length = 4 := by decide
  simp only [indexName_eq, Text.toAsciiLower_length, List.length_append, lead] at lengths
  omega

theorem isSound_tableWith (target : Target) (distinct : DistinctColumns target.columns) :
    (target.tableWith []).IsSound := by
  constructor
  · simpa [DistinctColumns, Target.tableWith, SqlTable.plain, ColumnDefinition.plain,
      Function.comp_def] using distinct
  · simp [Target.tableWith]

/-- The columns of a database that does not hold a table. -/
theorem columnNames_of_absent (database : Database) (name : Text)
    (usable : Identifier.isUsable name = true) (table : database.table? name = none)
    (view : database.view? name = none) :
    database.columnNames name =
      .ok (((Database.virtual? name).map VirtualTable.columns).getD []) := by
  simp [Database.columnNames, table, view, Database.master?_eq_none name usable]

/-- No column is added to a table that the database provides. -/
theorem execute_addColumn_provided (connection : Connection) (ready : connection.IsReady)
    (table : Text) (column : Text × Text) (named : IsName table) (columnNamed : IsName column.1)
    (type : IsColumnType column.2) (absent : connection.database.table? table = none)
    (view : connection.database.view? table = none)
    (provided : (Database.virtual? table).isSome = true) :
    connection.execute (addColumnText table column) [] =
      .error (.refused (.virtualFixed "altered")) := by
  have refused : ∀ database : Database, database.table? table = none →
      database.view? table = none →
      database.addColumn (SqlReader.plainObject table) [.column column.1 column.2] none false =
        .error (.virtualFixed "altered") := by
    intro database absent view
    simp [Database.addColumn, SqlReader.plainObject, Database.isMain, absent, view,
      Database.master?_eq_none table named.usable, provided]
  have spelled := spells_addColumnTokens table column named.plain columnNamed.plain
    (isName_of_isColumnType type).plain [] .nil (by simp [EndsVariable])
  rw [List.append_nil] at spelled
  have own := refused connection.database absent view
  have prepared := refused connection.database.withoutRows (by simp [absent]) view
  rw [addColumnText_eq, Connection.execute_definition connection ready _ spelled _
    (ofText_addColumn table column named columnNamed type) (fun _ => rfl) rfl
    (by simp [Database.define, own, prepared, Except.map])]
  simp [Database.define, own, Except.map, Except.mapError]

/-!
## The ends of a table

What bringing one table up to date comes to, from the columns that the table has, how far the statements
for its columns come, and whether its index is found.
-/

section Ends

variable {connection middle after : Connection} {target : Target} {existing texts : List Text}
  {text : Text} {rows : List (List Document)} {fault : SqlFault}

theorem applyAll_refused (refused : connection.execute text [] = .error fault) :
    applyAll connection (text :: texts) = { stopped := some fault, applied := [], connection } := by
  rw [applyAll, refused]

theorem applyAll_one (executed : connection.execute text [] = .ok (rows, after)) :
    applyAll connection [text] = { stopped := none, applied := [text], connection := after } := by
  rw [applyAll, executed]
  rfl

theorem migrateTable_unread (columns : connection.columns target.table = .error fault) :
    migrateTable connection target = (.error { table := target.table, fault }, connection) := by
  rw [migrateTable, applyTarget, columns]

theorem migrateTable_stopped (columns : connection.columns target.table = .ok existing)
    (stopped : applyAll connection (columnPlan existing target) =
      { stopped := some fault, applied := texts, connection := middle }) :
    migrateTable connection target = (.error { table := target.table, fault }, middle) := by
  simp only [migrateTable, applyTarget, columns, stopped]

variable (columns : connection.columns target.table = .ok existing)
  (brought : applyAll connection (columnPlan existing target) =
    { stopped := none, applied := texts, connection := middle })

include columns brought

theorem migrateTable_indexed (found : middle.hasIndex (indexName target) = .ok true) :
    migrateTable connection target = (.ok texts, middle) := by
  simp only [migrateTable, applyTarget, columns, brought, applyIndex, found, List.append_nil]

theorem migrateTable_indexing (absent : middle.hasIndex (indexName target) = .ok false)
    (executed : middle.execute (createIndexText target) [] = .ok (rows, after)) :
    migrateTable connection target = (.ok (texts ++ [createIndexText target]), after) := by
  simp only [migrateTable, applyTarget, columns, brought, applyIndex, absent, applyAll_one executed]

theorem migrateTable_unindexed (absent : middle.hasIndex (indexName target) = .ok false)
    (refused : middle.execute (createIndexText target) [] = .error fault) :
    migrateTable connection target = (.error { table := target.table, fault }, middle) := by
  simp only [migrateTable, applyTarget, columns, brought, applyIndex, absent, applyAll_refused refused]

end Ends

section Step

variable {connection : Connection} {targets : List Target} {rows : Text → List SqlRow}

/-- Whether no target has the table or the index of another one. -/
structure Target.IsNew (target : Target) (targets : List Target) : Prop where
  table : ∀ other ∈ targets, sameName other.table target.table = false
  index : ∀ other ∈ targets, sameName (indexName other) (indexName target) = false

/-- Whether the names of a table and its index are not those of other indexes and tables, and the
table is none that the database provides. -/
structure Target.IsFree (target : Target) (targets : List Target) : Prop where
  table : ∀ other ∈ targets, sameName (indexName other) target.table = false
  index : ∀ other ∈ targets, sameName other.table (indexName target) = false
  provided : Database.virtual? target.table = none

/-- A database behind the making of the table of a target, whose index is still to be made. -/
structure HoldsTable (database : Database) (targets : List Target) (target : Target)
    (rows : Text → List SqlRow) : Prop where
  tables : database.tables =
    (targets ++ [target]).map fun other => other.tableWith (rows other.table)
  indexes : database.indexes = targets.map Target.index
  views : database.views = []
  triggers : database.triggers = []

/-- The database behind the making of a table. -/
theorem execute_createTable_new (ready : connection.IsReady) (target : Target)
    (proper : target.IsProper) (holds : Holds connection.database targets rows)
    (new : target.IsNew targets)
    (free : ∀ other ∈ targets, sameName (indexName other) target.table = false)
    (noRows : rows target.table = []) :
    ∃ made : Connection, connection.execute (createTableText target) [] = .ok ([], made) ∧
      made.IsReady ∧ HoldsTable made.database targets target rows := by
  have table := (table?_eq_none_iff holds target.table).mpr new.table
  have index := (index?_eq_none_iff holds target.table).mpr free
  have view := view?_eq_none holds target.table
  have created := connection.database.createTable_plain target.table target.columns
    proper.table.usable proper.inhabited proper.distinct
  rw [table, view, index] at created
  have executed := execute_createTable connection ready target proper
  rw [Target.tableText, created] at executed
  have content := Database.sameContent_recorded connection.database (createTableTokens target)
    (.createTable target.tableText)
    (connection.database.addTable (SqlTable.plain target.table target.columns) [])
  refine ⟨_, executed, ⟨ready.opened, ready.known⟩, ?_, ?_, ?_, ?_⟩
  · refine content.tables.trans ?_
    simp [Database.addTable, holds.tables, Target.tableWith, SqlTable.plain, noRows]
  · refine content.indexes.trans ?_
    simp [Database.addTable, holds.indexes]
  · exact content.views.trans holds.views
  · exact content.triggers.trans holds.triggers

theorem table?_holdsTable {database : Database} (target : Target)
    (holds : HoldsTable database targets target rows) (new : target.IsNew targets)
    (noRows : rows target.table = []) :
    database.table? target.table = some (target.tableWith []) := by
  have before : (targets.map fun other => other.tableWith (rows other.table)).find?
      (fun table => sameName table.name target.table) = none := by
    rw [List.find?_eq_none]
    simpa [Target.tableWith, SqlTable.plain] using new.table
  rw [Database.table?, holds.tables, List.map_append, List.find?_append, before]
  simp [Target.tableWith, SqlTable.plain, noRows]

/-- The column of the time of a target in its table. -/
theorem exists_timeColumn (target : Target) (proper : target.IsProper) :
    ∃ (position : Nat) (column : Text × Text),
      (target.tableWith []).columns[position]? = some (.plain column) ∧
        sameName (ColumnDefinition.plain column).name target.timeColumn = true := by
  obtain ⟨column, member, timed⟩ := proper.timed
  obtain ⟨position, columnAt⟩ := List.mem_iff_getElem?.mp member
  refine ⟨position, column, ?_, ?_⟩
  · simp [Target.tableWith, SqlTable.plain, columnAt]
  · simp [ColumnDefinition.plain, timed]

/-- The columns of plain tables are compared point by point. -/
theorem collation_tableWith (target : Target) (name : Text) :
    (((target.tableWith []).column? name).map (·.collation)).getD .binary = .binary := by
  cases found : (target.tableWith []).column? name with
  | none => rfl
  | some column =>
      obtain ⟨definition, _, rfl⟩ := List.mem_map.mp (List.mem_of_find?_eq_some found)
      rfl

/-- What making the index on the time of a new table comes to. -/
theorem createIndex_holdsTable (database : Database) (target : Target) (proper : target.IsProper)
    (holds : HoldsTable database targets target rows) (new : target.IsNew targets)
    (noRows : rows target.table = []) :
    database.createIndex target.indexText =
      if (database.table? (indexName target)).isSome then .error (.tableNamed (indexName target))
      else .ok { database with indexes := database.indexes ++ [target.index] } := by
  have found := table?_holdsTable target holds new noRows
  obtain ⟨position, column, columnAt, timed⟩ := exists_timeColumn target proper
  have usable := (isName_indexName target proper.isPlain.isSpelled).usable
  have view : database.view? (indexName target) = none := by
    rw [Database.view?, holds.views]
    rfl
  have index : database.index? (indexName target) = none := by
    rw [Database.index?, holds.indexes, List.find?_eq_none]
    simpa [Target.index, SqlIndex.plain] using new.index
  rw [Target.indexText, database.createIndex_plain (indexName target) target.table
    target.timeColumn (target.tableWith []) usable proper.table.usable found
    (isSound_tableWith target proper.distinct) position _ columnAt timed, view, index,
    collation_tableWith]
  simp [Target.index, Target.tableWith, SqlTable.plain]

theorem execute_createIndex_new (made : Connection) (ready : made.IsReady) (target : Target)
    (proper : target.IsProper) (holds : HoldsTable made.database targets target rows)
    (new : target.IsNew targets) (noRows : rows target.table = []) :
    made.execute (createIndexText target) [] =
      ((made.database.createIndex target.indexText).mapError SqlFault.refused).map fun database =>
        ([], { made with
          database := made.database.recorded (createIndexTokens target)
            (.createIndex target.indexText) database }) := by
  have found := table?_holdsTable target holds new noRows
  obtain ⟨position, column, columnAt, timed⟩ := exists_timeColumn target proper
  exact execute_createIndex made ready target proper.toIsNamed (target.tableWith []) found
    (isSound_tableWith target proper.distinct) position _ columnAt timed

/-- The index of a target is made if no table has its name. -/
theorem execute_createIndex_free (made : Connection) (ready : made.IsReady) (target : Target)
    (proper : target.IsProper) (holds : HoldsTable made.database targets target rows)
    (new : target.IsNew targets) (noRows : rows target.table = [])
    (free : ∀ other ∈ targets, sameName other.table (indexName target) = false) :
    ∃ migrated : Connection, made.execute (createIndexText target) [] = .ok ([], migrated) ∧
      migrated.IsReady ∧ Holds migrated.database (targets ++ [target]) rows := by
  have noTable : made.database.table? (indexName target) = none := by
    rw [Database.table?, holds.tables, List.find?_eq_none]
    intro table member
    obtain ⟨other, otherMember, rfl⟩ := List.mem_map.mp member
    rcases List.mem_append.mp otherMember with before | own
    · simpa [Target.tableWith, SqlTable.plain] using free other before
    · obtain rfl := List.mem_singleton.mp own
      simpa [Target.tableWith, SqlTable.plain] using sameName_indexName other
  have executed := execute_createIndex_new made ready target proper holds new noRows
  rw [createIndex_holdsTable _ target proper holds new noRows, noTable] at executed
  have content := Database.sameContent_recorded made.database (createIndexTokens target)
    (.createIndex target.indexText)
    { made.database with indexes := made.database.indexes ++ [target.index] }
  refine ⟨_, executed, ⟨ready.opened, ready.known⟩, ?_⟩
  exact holds_of_sameContent content
    ⟨holds.tables, by simp [holds.indexes], holds.views, holds.triggers⟩

/-- The index of a target is refused if a table has its name. -/
theorem execute_createIndex_taken (made : Connection) (ready : made.IsReady) (target : Target)
    (proper : target.IsProper) (holds : HoldsTable made.database targets target rows)
    (new : target.IsNew targets) (noRows : rows target.table = []) (other : Target)
    (member : other ∈ targets) (taken : sameName other.table (indexName target) = true) :
    made.execute (createIndexText target) [] = .error (.refused (.tableNamed (indexName target))) := by
  have found : (made.database.table? (indexName target)).isSome = true := by
    rw [Database.table?, holds.tables, List.find?_isSome]
    exact ⟨_, List.mem_map.mpr ⟨other, List.mem_append_left _ member, rfl⟩, by
      simpa [Target.tableWith, SqlTable.plain] using taken⟩
  rw [execute_createIndex_new made ready target proper holds new noRows,
    createIndex_holdsTable _ target proper holds new noRows, found]
  rfl

end Step

end Migration

end EventForge
