import EventForge.Proofs.Sql.Additions
import EventForge.Proofs.Store.MigrationStep

/-!
# What a migration leaves

The texts that a migration executes define what is missing, or nothing at all where a name is a word of
the language.  Hence a migration leaves all that a database holds, however far it comes.
-/

namespace EventForge

open SqlToken Outcome

namespace SqlReader

/-- A name in front of what is no point, if the word serves as a name. -/
theorem objectName_plain (before found : Text) (tokens : List SqlToken)
    (alone : symbol "." tokens = .ok (false, tokens)) :
    Yields (fun read => read = (plainObject found, tokens))
      (objectName (ofWord before found :: tokens)) := by
  have named : name (ofWord before found :: tokens) = .ok (found, tokens) ∨
      ∃ refusal, name (ofWord before found :: tokens) = .error refusal := by
    by_cases free : found.toAsciiLower ∈ reservedWords
    · right
      simp [name, name?, nameOf?, ofWord, free, refuse]
    · left
      simp [name, name?, nameOf?, ofWord, free]
  rcases named with named | ⟨refusal, named⟩
  · have taken := spanned_append name [ofWord before found] tokens found named
    simp only [List.cons_append, List.nil_append] at taken
    simp only [objectName, run_bind, taken, ok_bind, alone, run_ite, Bool.false_eq_true, if_false,
      run_pure]
    exact yields_ok (by simp [plainObject, span, ofWord])
  · simp only [objectName, run_bind, spanned, named, error_bind]
    exact yields_error _ _

/-- What makes a table, whatever its name and its elements are. -/
theorem yields_statement_createTable (table : Text) (tokens : List SqlToken) :
    Yields (fun read => ∃ text, read.1 = .createTable text)
      (statement (ofWord [] "CREATE" :: ofWord blank "TABLE" :: ofWord blank "IF" ::
        ofWord blank "NOT" :: ofWord blank "EXISTS" :: ofWord blank table :: opening blank ::
        tokens)) := by
  have creates : create (ofWord blank "TABLE" :: ofWord blank "IF" :: ofWord blank "NOT" ::
        ofWord blank "EXISTS" :: ofWord blank table :: opening blank :: tokens) =
      createTable false (ofWord blank "IF" :: ofWord blank "NOT" :: ofWord blank "EXISTS" ::
        ofWord blank table :: opening blank :: tokens) := by rfl
  have absent := ifAbsent_words (ofWord blank table :: opening blank :: tokens)
  have notAs : word "as" (opening blank :: tokens) = .ok (false, opening blank :: tokens) := by rfl
  rw [statement_create, creates]
  simp only [createTable, run_bind, absent, ok_bind]
  refine yields_bind fun object read => ?_
  obtain rfl := objectName_plain blank table (opening blank :: tokens) (by rfl) object read
  simp only [notAs, ok_bind, run_ite, Bool.false_eq_true, if_false]
  unfold tableBehind
  split
  · exact yields_error _ _
  · simp only
    repeat' first
      | exact yields_ok ⟨_, rfl⟩
      | split

/-- What makes an index, whatever its names and its terms are. -/
theorem yields_statement_createIndex (tokens : List SqlToken) :
    Yields (fun read => ∃ text, read.1 = .createIndex text)
      (statement (ofWord [] "CREATE" :: ofWord blank "INDEX" :: tokens)) := by
  have creates : create (ofWord blank "INDEX" :: tokens) = createIndex false tokens := by
    have isIndex : ("INDEX" : Text).toAsciiLower = ("index" : Text) := by decide
    have notUnique : ("index" : Text) ≠ ("unique" : Text) := by decide
    simp [create, isIndex, notUnique]
  rw [statement_create, creates]
  simp only [createIndex, run_bind, run_ite, run_map, run_pure, ok_bind]
  repeat' first
    | exact yields_ok ⟨_, rfl⟩
    | refine yields_bind fun _ _ => ?_
    | split

/-- A column whose name is a word of the language breaks off at once. -/
theorem elements_ofColumn (column : Text × Text) (type : IsName column.2) (fuel : Nat) :
    (∃ rest, elements true (fuel + 2) .column (ofColumn blank column) =
        { elements := [.column column.1 (keptType column.2)], broken := none, rest }) ∨
      ∃ refusal rest, elements true (fuel + 2) .column (ofColumn blank column) =
        { elements := [], broken := some refusal, rest } := by
  by_cases free : column.1.toAsciiLower ∈ reservedWords
  · right
    have refused : ∃ refusal, element true .column (ofColumn blank column) = .error refusal := by
      simp [element, columnElement, ofColumn, name, name?, nameOf?, ofWord, free, refuse]
    obtain ⟨refusal, refused⟩ := refused
    exact ⟨refusal, _, by rw [elements, refused]⟩
  · left
    have typed := typeName_ofWord column.2 type [] .nil
    have read : element true .column (ofColumn blank column) =
        .ok (some (.column column.1 (keptType column.2), .columnRule none), []) := by
      have named : name (ofColumn blank column) = .ok (column.1, [ofWord blank column.2]) := by
        simp [name, name?, nameOf?, ofColumn, ofWord, free]
      simp only [element, columnElement, run_bind, named, ok_bind, typed, run_pure, keptType]
    have last : element true (.columnRule none) [] = .ok (none, []) := by rfl
    exact ⟨[], by simp only [elements, read, last]; rfl⟩

/-- What adds a column, whatever its name is. -/
theorem yields_statement_addColumn (table : Text) (column : Text × Text) (type : IsName column.2) :
    Yields (fun read =>
        read.1 = .addColumn (plainObject table) [.column column.1 (keptType column.2)] none false ∨
        ∃ fault, read.1 = .addColumn (plainObject table) [] (some fault) false)
      (statement (ofWord [] "ALTER" :: ofWord blank "TABLE" :: ofWord blank table ::
        ofWord blank "ADD" :: ofWord blank "COLUMN" :: ofColumn blank column)) := by
  have notDrop (tokens : List SqlToken) : word "drop" (ofWord blank "ADD" :: tokens) =
      .ok (false, ofWord blank "ADD" :: tokens) := by rfl
  have notRename (tokens : List SqlToken) : word "rename" (ofWord blank "ADD" :: tokens) =
      .ok (false, ofWord blank "ADD" :: tokens) := by rfl
  have add (tokens : List SqlToken) : words ["add"] (ofWord blank "ADD" :: tokens) =
      .ok ((), tokens) := by rfl
  have skips (tokens : List SqlToken) : word "column" (ofWord blank "COLUMN" :: tokens) =
      .ok (true, tokens) := by rfl
  have noPoint (tokens : List SqlToken) : symbol "." (ofWord blank "ADD" :: tokens) =
      .ok (false, ofWord blank "ADD" :: tokens) := by rfl
  rw [statement_alter]
  simp only [alterTable, run_bind]
  refine yields_bind fun object read => ?_
  obtain rfl := objectName_plain blank table _ (noPoint _) object read
  simp only [notDrop, notRename, add, skips, ok_bind, run_bind, run_get, run_ite, Bool.false_eq_true,
    if_false, run_set, run_pure]
  have count : (ofColumn blank column).length + 1 = 1 + 2 := rfl
  rw [count]
  rcases elements_ofColumn column type 1 with ⟨rest, part⟩ | ⟨refusal, rest, part⟩
  · rw [part]
    exact yields_ok (.inl rfl)
  · rw [part]
    exact yields_ok (.inr ⟨_, rfl⟩)

end SqlReader

/-- Whether a statement makes a table or an index or adds a plain column, unless it is broken. -/
inductive Statement.Adds : Statement → Prop
  | table (text : TableText) : Adds (.createTable text)
  | index (text : IndexText) : Adds (.createIndex text)
  | column (name : ObjectName) (column : Text × Text) (isOpen : Bool) :
      Adds (.addColumn name [.column column.1 column.2] none isOpen)
  | broken (name : ObjectName) (fault : SqlRefusal) (isOpen : Bool) :
      Adds (.addColumn name [] (some fault) isOpen)

namespace Database

theorem not_addColumn_broken (database : Database) (name : ObjectName) (fault : SqlRefusal)
    (isOpen : Bool) : Yields (fun _ => False) (database.addColumn name [] (some fault) isOpen) := by
  unfold addColumn
  simp only [throw_eq_error, error_bind]
  repeat' first
    | exact yields_error _ _
    | refine yields_bind fun _ _ => ?_
    | split

/-- What adds leaves what there is. -/
theorem grows_perform {database : Database} {statement : Statement} (adds : statement.Adds)
    (bound : List (Text × Cell)) :
    Yields (fun result => database.Grows result.2) (database.perform bound statement) := by
  cases adds with
  | table text =>
      exact yields_bind fun new made => yields_ok (grows_createTable made)
  | index text =>
      exact yields_bind fun new made => yields_ok (grows_createIndex made)
  | column name column isOpen =>
      exact yields_bind fun new made => yields_ok (grows_addColumn made)
  | broken name fault isOpen =>
      exact yields_bind fun new made => absurd made (not_addColumn_broken database name fault isOpen new)

theorem Grows.of_sameContent {database new after : Database} (grows : database.Grows new)
    (same : after.SameContent new) : database.Grows after := by
  have tables (name : Text) : after.table? name = new.table? name := by
    unfold table?
    rw [same.tables]
  constructor
  · intro name table found
    rw [tables]
    exact grows.tables name table found
  · intro name table absent found
    rw [tables] at found
    exact grows.fresh name table absent found
  · rw [same.indexes]
    exact grows.indexes
  · exact same.views.trans grows.views
  · exact same.triggers.trans grows.triggers

end Database

namespace FirstStatement

/-- The first statement of a spelled text is what is read from its tokens. -/
theorem yields_ofText {tokens : List SqlToken} (spelled : Spells tokens) (inhabited : tokens ≠ [])
    (read : Yields (fun read => read.1.Adds) (SqlReader.statement tokens)) :
    Yields (fun first => first.statement.Adds) (ofText (spell tokens)) := by
  have kept : tokens.dropWhile (isSymbol ";") = tokens := by
    cases spelled with
    | nil => rfl
    | word => rfl
    | number => rfl
    | symbol _ known => rcases known with rfl | rfl | rfl <;> rfl
  unfold ofText
  rw [SqlToken.ofText_spell tokens spelled]
  refine yields_bind fun first firstRead => ?_
  have adds : first.statement.Adds := by
    rw [ofTokens, kept] at firstRead
    cases tokens with
    | nil => exact absurd rfl inhabited
    | cons token tokens =>
        simp only at firstRead
        split at firstRead
        · cases firstRead
        · rename_i statement rest found
          obtain ⟨_, _, firstRead⟩ := (bind_eq_ok_iff _ _ _).mp firstRead
          obtain ⟨_, _, firstRead⟩ := (bind_eq_ok_iff _ _ _).mp firstRead
          rw [← Except.ok.inj firstRead]
          exact read _ found
  split
  · rename_i table elements broken isOpen same
    rw [same] at adds
    refine yields_ok ?_
    cases adds with
    | column _ column => exact .column _ column _
    | broken _ fault => exact .broken _ fault _
  · exact yields_ok adds

end FirstStatement

namespace Connection

/-- What an executed statement does. -/
theorem yields_execute (connection : Connection) (text : Text) (values : Fields Document) :
    Yields (fun result => ∃ first bound performed, FirstStatement.ofText text = .ok first ∧
        connection.database.perform bound first.statement = .ok performed ∧
        result.2 = { connection with
          database := connection.database.recorded first.tokens first.statement performed.2 })
      (connection.execute text values) := by
  unfold execute
  simp only [throw_eq_error, error_bind]
  repeat' first
    | exact yields_error _ _
    | split
  refine yields_bind fun first read => ?_
  refine yields_bind fun _ _ => ?_
  repeat' first
    | exact yields_error _ _
    | split
  refine yields_bind fun bound _ => ?_
  refine yields_bind fun performed made => ?_
  exact yields_ok ⟨first, bound, performed, (mapError_eq_ok_iff _ _ _).mp read,
    (mapError_eq_ok_iff _ _ _).mp made, rfl⟩

/-- What an executed statement leaves is what it performs. -/
theorem exists_perform {connection after : Connection} {text : Text} {values : Fields Document}
    {rows : List (List Document)} {first : FirstStatement}
    (read : FirstStatement.ofText text = .ok first)
    (executed : connection.execute text values = .ok (rows, after)) :
    ∃ bound performed, connection.database.perform bound first.statement = .ok performed ∧
      after.database.SameContent performed.2 := by
  obtain ⟨other, bound, performed, otherRead, made, same⟩ :=
    yields_execute connection text values _ executed
  rw [read] at otherRead
  obtain rfl := Except.ok.inj otherRead
  have same : after = _ := same
  exact ⟨bound, performed, made, same ▸ Database.sameContent_recorded _ _ _ _⟩

/-- A text that adds leaves what there is. -/
theorem grows_execute (connection : Connection) {tokens : List SqlToken} (spelled : Spells tokens)
    (inhabited : tokens ≠ [])
    (read : Yields (fun read => read.1.Adds) (SqlReader.statement tokens)) :
    Yields (fun result => connection.database.Grows result.2.database)
      (connection.execute (spell tokens) []) := by
  intro result executed
  obtain ⟨first, bound, performed, firstRead, made, same⟩ :=
    yields_execute connection (spell tokens) [] result executed
  have adds := FirstStatement.yields_ofText spelled inhabited read first firstRead
  rw [same]
  exact (Database.grows_perform adds bound performed made).of_sameContent
    (Database.sameContent_recorded _ _ _ _)

end Connection

namespace Migration

/-- Whether executing a text leaves what there is in every database. -/
def IsAddition (text : Text) : Prop :=
  ∀ connection : Connection, Yields (fun result => connection.database.Grows result.2.database)
    (connection.execute text [])

variable {target : Target}

theorem isAddition_createTable (spelled : target.IsSpelled) :
    IsAddition (createTableText target) := by
  intro connection
  rw [createTableText_eq]
  refine Connection.grows_execute connection (spells_createTableTokens target spelled)
    (by simp [createTableTokens]) ?_
  intro read found
  obtain ⟨text, same⟩ := SqlReader.yields_statement_createTable _ _ read found
  rw [same]
  exact .table text

theorem isAddition_createIndex (spelled : target.IsSpelled) :
    IsAddition (createIndexText target) := by
  intro connection
  rw [createIndexText_eq]
  refine Connection.grows_execute connection (spells_createIndexTokens target spelled)
    (by simp [createIndexTokens]) ?_
  intro read found
  obtain ⟨text, same⟩ := SqlReader.yields_statement_createIndex _ read found
  rw [same]
  exact .index text

theorem isAddition_addColumn (table : Text) (column : Text × Text)
    (plain : Identifier.isPlain table = true) (columnPlain : Identifier.isPlain column.1 = true)
    (type : IsName column.2) : IsAddition (addColumnText table column) := by
  intro connection
  have spelled := spells_addColumnTokens table column plain columnPlain type.plain [] .nil
    (by simp [EndsVariable])
  rw [List.append_nil] at spelled
  rw [addColumnText_eq]
  refine Connection.grows_execute connection spelled (by simp [addColumnTokens]) ?_
  intro read found
  rcases SqlReader.yields_statement_addColumn table column type read found with same | ⟨fault, same⟩
  · rw [same]
    exact .column _ (SqlReader.kept column) false
  · rw [same]
    exact .broken _ fault false

/-- The texts that a migration can execute for a target. -/
inductive IsStatementOf (target : Target) : Text → Prop
  | table : IsStatementOf target (createTableText target)
  | index : IsStatementOf target (createIndexText target)
  | column {column : Text × Text} (listed : column ∈ target.columns) :
      IsStatementOf target (addColumnText target.table column)

theorem IsStatementOf.isAddition {text : Text} (own : IsStatementOf target text)
    (spelled : target.IsSpelled) : IsAddition text := by
  cases own with
  | table => exact isAddition_createTable spelled
  | index => exact isAddition_createIndex spelled
  | column listed =>
      exact isAddition_addColumn target.table _ spelled.table (spelled.columns _ listed)
        (spelled.types _ listed)

theorem isStatementOf_columnPlan (target : Target) (existing : List Text) :
    ∀ text ∈ columnPlan existing target, IsStatementOf target text := by
  intro text member
  unfold columnPlan at member
  split at member
  · rw [List.mem_singleton.mp member]
    exact .table
  · obtain ⟨column, missing, rfl⟩ := List.mem_map.mp member
    exact .column (List.mem_filter.mp missing).1

/-- Every statement that brings the columns of a table up to date adds. -/
theorem isAddition_columnPlan (spelled : target.IsSpelled) (existing : List Text) :
    ∀ text ∈ columnPlan existing target, IsAddition text :=
  fun text member => (isStatementOf_columnPlan target existing text member).isAddition spelled

/-- However far statements that add come, they leave what there is. -/
theorem grows_applyAll (connection : Connection) (texts : List Text)
    (each : ∀ text ∈ texts, IsAddition text) :
    connection.database.Grows (applyAll connection texts).connection.database := by
  induction texts generalizing connection with
  | nil => exact .refl _
  | cons text texts ih =>
      unfold applyAll
      split
      · exact .refl _
      · rename_i rows next executed
        have first := each text (by simp) connection (rows, next) executed
        have others := ih next fun other member => each other (by simp [member])
        exact first.trans others

theorem grows_applyIndex (connection : Connection) (spelled : target.IsSpelled) :
    connection.database.Grows (applyIndex connection target).connection.database := by
  unfold applyIndex
  split
  · exact .refl _
  · exact .refl _
  · refine grows_applyAll connection _ ?_
    intro text member
    rw [List.mem_singleton.mp member]
    exact isAddition_createIndex spelled

theorem grows_applyTarget (connection : Connection) (spelled : target.IsSpelled) :
    connection.database.Grows (applyTarget connection target).connection.database := by
  unfold applyTarget
  split
  · exact .refl _
  · rename_i existing _
    have columns := grows_applyAll connection (columnPlan existing target)
      (isAddition_columnPlan spelled existing)
    simp only
    split
    · exact columns
    · exact columns.trans (grows_applyIndex _ spelled)

/-- Bringing a table up to date leaves all that a database holds, whether it succeeds or stops at any
of its statements. -/
theorem migrateTable_only_adds (connection : Connection) (target : Target) (plain : target.IsPlain) :
    connection.database.Grows (migrateTable connection target).2.database := by
  have grows := grows_applyTarget connection plain.isSpelled
  unfold migrateTable
  simp only
  split
  · exact grows
  · exact grows

/-- The cells of the rows of a table. -/
def cellsOf (database : Database) (name : Text) : List (List Cell) :=
  ((database.table? name).map fun table => table.rows.map SqlRow.cells).getD []

/-- A table with a column that is calculated from a name in quotation marks, which no column has. -/
def notedTable : SqlTable where
  name := "login"
  columns := [{ name := "time", typeName := "BIGINT" },
    { name := "note", typeName := "TEXT", generated := some (.column ["size"] true, false) }]
  rows := [{ id := 1, cells := [.integer 7, .text "size"] }]

def notedConnection : Connection where
  database := {
    tables := [notedTable]
    indexes := [.plain "idx_login_time" "login" "time" .binary] }

def sizedTarget : Target where
  table := "login"
  columns := [("time", "BIGINT"), ("size", "INTEGER")]
  timeColumn := "time"

theorem isName_login : IsName "login" := ⟨by decide, Identifier.isUsable_login⟩

theorem isName_size : IsName "size" :=
  ⟨by decide, Identifier.isUsable_of_lower _ (by decide) (by decide)
    (by simp [Identifier.databaseWords, Text.ofString_inj]) (by decide)⟩

theorem isPlain_sizedTarget : sizedTarget.IsPlain := by
  constructor
  · decide
  · decide
  · intro column member
    simp only [sizedTarget, List.mem_cons, List.not_mem_nil, or_false] at member
    rcases member with rfl | rfl
    · exact .inr rfl
    · exact .inl rfl
  · decide

theorem sizedTarget_only_adds : sizedTarget.IsPlain ∧
    notedConnection.database.Grows (migrateTable notedConnection sizedTarget).2.database :=
  ⟨isPlain_sizedTarget, migrateTable_only_adds notedConnection sizedTarget isPlain_sizedTarget⟩

/-- What is calculated from other columns is not kept: the name in quotation marks stands for the new
column from then on. -/
theorem migrateTable_recalculates :
    (migrateTable notedConnection sizedTarget).1 = .ok [addColumnText "login" ("size", "INTEGER")] ∧
      cellsOf notedConnection.database "login" = [[.integer 7, .text "size"]] ∧
      cellsOf (migrateTable notedConnection sizedTarget).2.database "login" =
        [[.integer 7, .null, .null]] := by
  have ready : notedConnection.IsReady := ⟨rfl, rfl⟩
  have columns : notedConnection.columns sizedTarget.table = .ok ["time"] :=
    Connection.columns_eq notedConnection ready "login" isName_login
  have plan : columnPlan ["time"] sizedTarget = [addColumnText "login" ("size", "INTEGER")] := by rfl
  have spelled := spells_addColumnTokens "login" ("size", "INTEGER") isName_login.plain
    isName_size.plain (isName_of_isColumnType (.inl rfl)).plain [] .nil (by simp [EndsVariable])
  rw [List.append_nil] at spelled
  have executed := Connection.execute_spell notedConnection ready
    (addColumnTokens "login" ("size", "INTEGER")) spelled _ [] []
    (ofText_addColumn "login" ("size", "INTEGER") isName_login isName_size (.inl rfl)) (.inr rfl)
  rw [← addColumnText_eq] at executed
  obtain ⟨database, performed, cells, indexed⟩ : ∃ database : Database,
      notedConnection.database.perform [] (.addColumn (SqlReader.plainObject "login")
        [.column "size" "INTEGER"] none false) = .ok ([], database) ∧
      cellsOf database "login" = [[.integer 7, .null, .null]] ∧
      (database.index? (indexName sizedTarget)).isSome = true := ⟨_, rfl, rfl, rfl⟩
  have prepared : notedConnection.database.prepare (.addColumn (SqlReader.plainObject "login")
      [.column "size" "INTEGER"] none false) = .ok () := by rfl
  simp only [prepared, Connection.bindAll, performed, mapError_ok, ok_bind, pure_eq_ok] at executed
  have same := Database.sameContent_recorded notedConnection.database
    (addColumnTokens "login" ("size", "INTEGER"))
    (.addColumn (SqlReader.plainObject "login") [.column "size" "INTEGER"] none false) database
  generalize notedConnection.database.recorded _ _ database = recorded at executed same
  have hasIndex : ({ notedConnection with database := recorded } : Connection).hasIndex
      (indexName sizedTarget) = .ok true := by
    unfold Database.index? at indexed
    rw [← same.indexes] at indexed
    exact congrArg Except.ok indexed
  have brought : applyAll notedConnection (columnPlan ["time"] sizedTarget) =
      { stopped := none
        applied := [addColumnText "login" ("size", "INTEGER")]
        connection := { notedConnection with database := recorded } } := by
    rw [plan, applyAll_one executed]
  have migrated := migrateTable_indexed columns brought hasIndex
  refine ⟨by rw [migrated], by rfl, ?_⟩
  rw [migrated, ← cells]
  unfold cellsOf Database.table?
  rw [same.tables]

end Migration

end EventForge
