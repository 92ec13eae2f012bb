import EventForge.Sql.Evaluation

/-!
# Defining tables and indexes

The elements of a table are taken in one after the other, and each is checked against those in front
of it.  What they say about each other is checked when all of them are known.
-/

namespace EventForge

/-- A table whose elements are being taken in, and the indexes of its keys. -/
structure TableDraft where
  table : SqlTable
  indexes : List SqlIndex := []
  hasPrimary : Bool := false

namespace SqlExpression

/-- Whether an expression holds no column and no query. -/
def isConstant : Nat → SqlExpression → Bool
  | 0, _ => false
  | fuel + 1, value =>
      let constant := isConstant fuel
      match value with
      | .constant _ | .oversized _ => true
      | .column [name] quoted => !quoted && (truthOf? name).isSome
      | .unary _ value | .collate value _ | .cast value _ => constant value
      | .binary _ first second => constant first && constant second
      | .between value low high => constant value && constant low && constant high
      | .isAmong value items => constant value && items.all constant
      | .matches _ value pattern escape =>
          constant value && constant pattern && escape.toList.all constant
      | .cases subject branches otherwise =>
          subject.toList.all constant && otherwise.toList.all constant &&
            branches.all fun branch => constant branch.1 && constant branch.2
      | .call _ _ items | .row items => items.all constant
      | .callOnAll _ | .raise _ _ => true
      | _ => false

/-- The value of a literal, perhaps with a sign or converted to a type. -/
def literal? : SqlExpression → Option Cell
  | .constant cell => some cell
  | .column [name] _ => (truthOf? name).map fun truth => Cell.ofTruth? (some truth)
  | .unary .positive value => literal? value
  | .unary .negative value => (literal? value).map (Cell.subtract (.integer 0))
  | .cast value typeName => (literal? value).map (Cell.cast (Affinity.ofTypeName typeName))
  | _ => none

/-- The columns that an expression names, outside of the queries in it. -/
def columnNames : Nat → SqlExpression → List Text
  | 0, _ => []
  | fuel + 1, value =>
      let names := columnNames fuel
      match value with
      | .column path _ => path.getLast?.toList
      | .unary _ value | .collate value _ | .cast value _ | .isAmongRows value _ => names value
      | .binary _ first second => names first ++ names second
      | .between value low high => names value ++ names low ++ names high
      | .isAmong value items => names value ++ items.flatMap names
      | .matches _ value pattern escape =>
          names value ++ names pattern ++ escape.toList.flatMap names
      | .cases subject branches otherwise =>
          subject.toList.flatMap names ++
            (branches.flatMap fun branch => names branch.1 ++ names branch.2) ++
            otherwise.toList.flatMap names
      | .call _ _ items | .row items => items.flatMap names
      | _ => []

/-- An expression with a column under another name. -/
def renamed (old new : Text) : Nat → SqlExpression → SqlExpression
  | 0, value => value
  | fuel + 1, value =>
      let rename := renamed old new fuel
      match value with
      | .column path quoted =>
          if sameName (path.getLastD []) old then .column (path.dropLast ++ [new]) quoted else value
      | .unary operator value => .unary operator (rename value)
      | .binary operator first second => .binary operator (rename first) (rename second)
      | .between value low high => .between (rename value) (rename low) (rename high)
      | .isAmong value items => .isAmong (rename value) (items.map rename)
      | .matches function value pattern escape =>
          .matches function (rename value) (rename pattern) (escape.map rename)
      | .collate value collation => .collate (rename value) collation
      | .cast value typeName => .cast (rename value) typeName
      | .cases subject branches otherwise =>
          .cases (subject.map rename)
            (branches.map fun branch => (rename branch.1, rename branch.2))
            (otherwise.map rename)
      | .call function distinct items => .call function distinct (items.map rename)
      | other => other

end SqlExpression

namespace TableDraft

/-- Changes the last column. -/
def changeLast (draft : TableDraft) (change : ColumnDefinition → ColumnDefinition) : TableDraft :=
  { draft with table := { draft.table with
    columns := draft.table.columns.mapIdx fun index column =>
      if index + 1 = draft.table.columns.length then change column else column } }

def last? (draft : TableDraft) : Option ColumnDefinition := draft.table.columns.getLast?

/-- What an index orders by: the column or the expression, and how it is compared. -/
def indexTerm (table : SqlTable) (term : OrderTerm) : IndexTerm :=
  match term with
  | .by value _ _ =>
      let (value, named) : SqlExpression × Option Text :=
        match value with
        | .collate value name => (value, some name)
        | value => (value, none)
      let value : SqlExpression :=
        match value with
        | .constant (.text name) => .column [name] false
        | value => value
      let own : Collation :=
        match value with
        | .column [name] _ => ((table.column? name).map (·.collation)).getD .binary
        | _ => .binary
      { value, collation := (named.bind Collation.ofName?).getD own }

/-- Refuses terms that say where what is missing belongs. -/
def checkNulls (terms : List OrderTerm) : Except SqlRefusal Unit :=
  match terms.findSome? fun term => match term with | .by _ _ nullsLast => nullsLast with
  | some nullsLast => .error (.explicitNulls nullsLast)
  | none => .ok ()

/-- The columns of a key. -/
def keyTerms (table : SqlTable) (terms : List OrderTerm) : Except SqlRefusal (List IndexTerm) :=
  terms.mapM fun term => do
    if let .by (.collate _ name) _ _ := term then
      if (Collation.ofName? name).isNone then throw (.noCollation name)
    let found := indexTerm table term
    match found.value with
    | .column [name] _ =>
        if (table.column? name).isNone then throw (.noColumn [name])
        return found
    | _ => throw .prohibitedKeyExpression

/-- Whether two indexes order rows in the same way. -/
def sameTerms (first second : SqlIndex) : Bool :=
  match first.columns?, second.columns? with
  | some firsts, some seconds =>
      firsts.length = seconds.length && (firsts.zip seconds).all (fun entry =>
        sameName entry.1 entry.2) &&
        (first.terms.map IndexTerm.collation) = (second.terms.map IndexTerm.collation)
  | _, _ => false

/-- Adds the index of a key.  If there is one on the same columns, only what settles conflicts is
taken over. -/
def addKey (draft : TableDraft) (terms : List IndexTerm) (resolution : Option Resolution) :
    Except SqlRefusal TableDraft :=
  let number := Text.ofNat (draft.indexes.length + 1)
  let index : SqlIndex :=
    { name := ("sqlite_autoindex_" : Text) ++ draft.table.name ++ "_" ++ number
      table := draft.table.name, terms, unique := true, implied := true, resolution }
  match draft.indexes.find? (sameTerms index) with
  | none => .ok { draft with indexes := draft.indexes ++ [index] }
  | some found =>
      if found.resolution.isSome && resolution.isSome && found.resolution ≠ resolution then
        .error (.other "conflicting ON CONFLICT clauses specified")
      else
        let merged (other : SqlIndex) : SqlIndex :=
          if sameTerms index other then
            { other with resolution := other.resolution <|> resolution }
          else other
        .ok { draft with indexes := draft.indexes.map merged }

/-- Makes columns the primary key. -/
def addPrimary (draft : TableDraft) (columns : List Text) (terms : Except SqlRefusal (List IndexTerm))
    (descending counted : Bool) (resolution : Option Resolution) : Except SqlRefusal TableDraft := do
  if draft.hasPrimary then throw (.severalPrimaryKeys draft.table.name)
  let found := columns.filterMap draft.table.column?
  if found.any fun column => column.generated.isSome then throw .generatedKey
  let draft :=
    { draft with hasPrimary := true, table := { draft.table with primary := columns } }
  match found with
  | [only] =>
      if columns.length = 1 && sameName only.typeName "INTEGER" && !descending then
        return { draft with table := { draft.table with
          idColumn := some only.name, idResolution := resolution, counted } }
  | _ => pure ()
  if counted then throw .uncountable
  draft.addKey (← terms) resolution

/-- Takes in the value of a generated column. -/
def addGenerated (draft : TableDraft) (value : SqlExpression) (storage : Option Text) :
    Except SqlRefusal TableDraft := do
  match draft.last? with
  | none => return draft
  | some column =>
      if column.standard.isSome || column.generated.isSome then
        throw (.brokenGenerated column.name)
      let stored ←
        match storage with
        | none => pure false
        | some kind =>
            if sameName kind "virtual" then pure false
            else if sameName kind "stored" then pure true
            else throw (.brokenGenerated column.name)
      if draft.table.primary.any (sameName column.name) then throw .generatedKey
      return draft.changeLast fun column => { column with generated := some (value, stored) }

/-- Takes in an element. -/
def add (draft : TableDraft) : TableElement → Except SqlRefusal TableDraft
  | .column name typeName =>
      if (draft.table.column? name).isSome then .error (.duplicateColumn name)
      else
        .ok { draft with table := { draft.table with
          columns := draft.table.columns ++ [{ name, typeName }] } }
  | .notNull resolution =>
      .ok (draft.changeLast fun column =>
        { column with notNull := true, notNullResolution := resolution })
  | .standard value written =>
      match draft.last? with
      | some column =>
          if !value.isConstant evaluationDepth then .error (.changingDefault column.name)
          else if column.generated.isSome then .error .generatedDefault
          else .ok (draft.changeLast fun column => { column with
            standard := some value, standardText := some written })
      | none => .ok draft
  | .primaryKey descending counted resolution =>
      match draft.last? with
      | some column =>
          draft.addPrimary [column.name]
            (.ok [{ value := .column [column.name] false, collation := column.collation }])
            descending counted resolution
      | none => .ok draft
  | .unique resolution =>
      match draft.last? with
      | some column =>
          (draft.changeLast fun column => { column with unique := true }).addKey
            [{ value := .column [column.name] false, collation := column.collation }] resolution
      | none => .ok draft
  | .check label condition column =>
      .ok { draft with table := { draft.table with
        checks := draft.table.checks ++
          [{ label, condition
             column := if column then draft.last?.map (·.name) else none }] } }
  | .collate name =>
      match Collation.ofName? name with
      | some collation => .ok (draft.changeLast fun column => { column with collation })
      | none => .error (.noCollation name)
  | .generated value storage => draft.addGenerated value storage
  | .foreignKey none table targets =>
      match draft.last? with
      | some column =>
          if 1 < targets.length then .error (.foreignColumn column.name table) else .ok draft
      | none => .ok draft
  | .foreignKey (some columns) _ targets =>
      if !targets.isEmpty && targets.length ≠ columns.length then .error .foreignCount
      else
        match columns.find? fun column => (draft.table.column? column).isNone with
        | some column => .error (.unknownForeignColumn column)
        | none => .ok draft
  | .key true terms counted resolution => do
      let columns := terms.filterMap fun term =>
        match (indexTerm draft.table term).value with
        | .column [name] _ => some name
        | _ => none
      let draft ← draft.addPrimary columns (keyTerms draft.table terms) false counted resolution
      checkNulls terms
      return draft
  | .key false terms _ resolution => do
      checkNulls terms
      draft.addKey (← keyTerms draft.table terms) resolution
  | .remark => .ok draft

/-- The types that columns of strict tables can have. -/
def strictTypes : List Text := ["any", "blob", "int", "integer", "real", "text"]

/-- Makes a table one whose values must be of the types of their columns. -/
def makeStrict (draft : TableDraft) : Except SqlRefusal TableDraft := do
  let table := draft.table
  for column in table.columns do
    if column.typeName.isEmpty then throw (.missingType table.name column.name)
    if !strictTypes.contains column.typeName.toAsciiLower then
      throw (.unknownType table.name column.name column.typeName)
  let isKey (column : ColumnDefinition) : Bool :=
    table.primary.any (sameName column.name) && !table.idColumn.any (sameName column.name)
  return { draft with table := { table with
    strict := true
    columns := table.columns.map fun column =>
      { column with notNull := column.notNull || isKey column } } }

/-- Makes a table one whose rows have no numbers. -/
def dropIds (draft : TableDraft) : Except SqlRefusal TableDraft := do
  if draft.table.counted then throw .countedWithoutIds
  if !draft.hasPrimary then throw (.noPrimaryKey draft.table.name)
  let primary := draft.table.primary
  let table := { draft.table with
    idColumn := none, hasIds := false
    columns := draft.table.columns.map fun column =>
      { column with notNull := column.notNull || primary.any (sameName column.name) } }
  let keys : List IndexTerm := primary.map fun name =>
    { value := .column [name] false, collation := .binary }
  if draft.table.idColumn.isNone then return { draft with table }
  ({ draft with table } : TableDraft).addKey keys draft.table.idResolution

/-- Takes in the options of a table. -/
def addOptions (draft : TableDraft) (options : List TableOption) : Except SqlRefusal TableDraft := do
  let draft ← if options.contains .strict then draft.makeStrict else pure draft
  if options.contains .withoutIds then draft.dropIds else return draft

end TableDraft

namespace SqlTable

/-- The surroundings of a rule on a row of a table. -/
def ruleSurroundings (table : SqlTable) (place : RestrictedPlace) (row : SqlRow) : Surroundings :=
  let scope := ScopeTable.ofTable table table.name
  let scope := { scope with hasIds := scope.hasIds && place = .checks }
  { database := Database.empty, place := some place
    frames := [[{ table := scope, cells := row.cells, id := some row.id }]] }

/-- Checks an expression of a rule. -/
def checkRule (table : SqlTable) (place : RestrictedPlace) (value : SqlExpression) :
    Except SqlRefusal Unit :=
  value.check (table.ruleSurroundings place
    { id := 0, cells := table.columns.map fun _ => .null })

/-- The value that a column stores. -/
def store (column : ColumnDefinition) (cell : Cell) : Cell := cell.stored column.affinity

/-- The value that a column of a table stores: in a strict table, a column can be of any type. -/
def storeIn (table : SqlTable) (column : ColumnDefinition) (cell : Cell) : Cell :=
  if table.strict && sameName column.typeName "any" then cell else store column cell

/-- Whether the value of a generated column needs a column. -/
def needs (value : SqlExpression) (column : ColumnDefinition) : Bool :=
  (value.columnNames evaluationDepth).any (sameName column.name)

/-- A row in which generated columns are calculated as soon as the columns that they need are known.
The names of known columns are given. -/
def calculatedFrom (table : SqlTable) : Nat → List Text → SqlRow → Except SqlRefusal SqlRow
  | 0, _, row => .ok row
  | fuel + 1, known, row => do
      let isKnown (column : ColumnDefinition) : Bool := known.any (sameName column.name)
      let entries ← (table.columns.zip row.cells).mapM fun entry => do
        match entry.1.generated with
        | some (value, _) =>
            let isReady := table.columns.all fun other => isKnown other || !needs value other
            if isKnown entry.1 || !isReady then return (entry.2, none)
            let cell ← value.evaluate (table.ruleSurroundings .generated row)
            return (store entry.1 cell, some entry.1.name)
        | none => return (entry.2, none)
      let found := entries.filterMap fun entry => entry.2
      let row := { row with cells := entries.map fun entry => entry.1 }
      if found.isEmpty then
        match (table.columns.filter fun column => !isKnown column).getLast? with
        | some column => throw (.generatedLoop column.name)
        | none => return row
      calculatedFrom table fuel (known ++ found) row

/-- A row with the values of the generated columns, each of which may need others. -/
def calculated (table : SqlTable) (row : SqlRow) : Except SqlRefusal SqlRow :=
  table.calculatedFrom (table.columns.length + 1)
    (table.givenColumns.map fun column => column.name) row

/-- Checks what the elements of a table say about each other. -/
def checkRules (table : SqlTable) : Except SqlRefusal Unit := do
  if table.givenColumns.isEmpty then throw .onlyGenerated
  for check in table.checks do
    table.checkRule .checks check.condition
  for column in table.columns do
    if let some (value, _) := column.generated then table.checkRule .generated value

/-- The columns that are calculated again and again when one is calculated that is not stored. -/
def loopsFrom (table : SqlTable) : Nat → List Text → ColumnDefinition → List Text
  | 0, _, _ => []
  | fuel + 1, path, column =>
      match column.generated with
      | some (value, false) =>
          if path.any (sameName column.name) then [column.name]
          else
            (table.columns.filter (needs value)).flatMap
              (loopsFrom table fuel (column.name :: path))
      | _ => []

/-- Refuses a table in which a column that is not stored needs itself. -/
def checkLoops (table : SqlTable) : Except SqlRefusal Unit :=
  match (table.columns.flatMap (table.loopsFrom (table.columns.length + 1) [])).getLast? with
  | some column => .error (.generatedLoop column)
  | none => .ok ()

/-- Whether rows have the columns of an index, and which cells it orders a row by. -/
def indexKey? (table : SqlTable) (index : SqlIndex) (row : SqlRow) :
    Except SqlRefusal (Option (List Cell)) := do
  let around := table.ruleSurroundings .indexes row
  let covered : Bool ←
    match index.condition with
    | some condition => do pure ((← condition.evaluate around).truth? == some true)
    | none => pure true
  if !covered then return none
  return some (← index.terms.mapM fun term => term.value.evaluate around)

end SqlTable

namespace SqlIndex

/-- Whether two keys are the same to an index.  What is missing differs from everything. -/
def sameKey (index : SqlIndex) (first second : List Cell) : Bool :=
  (index.terms.zip (first.zip second)).all fun entry =>
    !entry.2.1.isNull && entry.2.1.sameBy entry.1.collation entry.2.2

/-- The refusal of a second row with the same key. -/
def clash (index : SqlIndex) (table : Text) : SqlRefusal :=
  match index.columns? with
  | some columns => .notUnique (columns.map fun column => table ++ "." ++ column)
  | none => .notUniqueIndex index.name

end SqlIndex

namespace Database

/-- What a name already stands for where a table or view would be made. -/
def checkNewTable (database : Database) (name : ObjectName) : Except SqlRefusal Bool := do
  if isReserved name.name then throw (.reservedName name.name)
  if (database.table? name.name).isSome then throw (.objectExists .table name.written)
  if (database.view? name.name).isSome then throw (.objectExists .view name.written)
  if (database.index? name.name).isSome then throw (.indexNamed name.name)
  return true

/-- Whether a table or view is still to be made; if it may be there already, that is no fault. -/
def isNewTable (database : Database) (ifAbsent : Bool) (name : ObjectName) :
    Except SqlRefusal Bool :=
  match database.checkNewTable name with
  | .error (.objectExists kind shown) =>
      if ifAbsent then .ok false else .error (.objectExists kind shown)
  | answer => answer

/-- Checks the database in front of the name of something new. -/
def checkNewPlace (name : ObjectName) : Except SqlRefusal Unit :=
  match name.database with
  | some database =>
      if isMain name.database || sameName database "temp" then .ok ()
      else .error (.noDatabase database)
  | none => .ok ()

/-- Refuses what cannot be read again once the words in front of its name are left out. -/
def checkReadable (ifAbsent : Bool) (name : ObjectName) (next : Text) : Except SqlRefusal Unit :=
  if ifAbsent && name.isOpening then .error (.malformed name.name next) else .ok ()

/-- Whether something new is only kept as long as the connection. -/
def isPassing (temporary : Bool) (name : ObjectName) : Bool :=
  temporary || (name.database.any fun database => sameName database "temp")

/-- The table that holds the greatest numbers given out. -/
def sequenceTable : SqlTable :=
  { name := "sqlite_sequence"
    columns := [{ name := "name", typeName := [] }, { name := "seq", typeName := [] }] }

/-- Adds a table with its indexes. -/
def addTable (database : Database) (table : SqlTable) (indexes : List SqlIndex) : Database :=
  { database with
    tables := database.tables ++ [table] ++
      (if table.counted && (database.table? sequenceTable.name).isNone then [sequenceTable] else [])
    indexes := database.indexes ++ indexes }

def createTable (database : Database) (text : TableText) : Except SqlRefusal Database := do
  checkNewPlace text.name
  let isNew ←
    if isPassing text.temporary text.name then pure true
    else database.isNewTable text.ifAbsent text.name
  if !isNew then
    let _ ← text.ending
    return database
  let draft ← text.elements.foldlM TableDraft.add
    { table := { name := text.name.name, columns := [] } }
  let options ← text.ending
  let draft ← draft.addOptions options
  draft.table.checkRules
  draft.table.checkLoops
  checkReadable text.ifAbsent text.name "("
  if isPassing text.temporary text.name then return database
  return database.addTable draft.table draft.indexes

/-- The name of the type of a column that holds the values of a query. -/
def resultType (affinity : Option Affinity) : Text :=
  match affinity.getD .blob with
  | .integer => "INT"
  | .text => "TEXT"
  | .blob => []
  | .real => "REAL"
  | .numeric => "NUM"

/-- Columns for the values of a query. A name that repeats another gets a number. -/
def resultColumns (before : List ColumnDefinition) : List ScopeColumn → List ColumnDefinition
  | [] => before
  | column :: columns =>
      let taken (name : Text) : Bool := before.any fun other => sameName other.name name
      let name :=
        if !taken column.name then column.name
        else
          (((List.range (before.length + 1)).map fun number =>
            column.name ++ ":" ++ Text.ofNat (number + 1)).find? fun name => !taken name).getD
              column.name
      resultColumns
        (before ++ [{ name, typeName := resultType column.affinity, collation := .binary }]) columns

/-- Makes a table of the rows of a query. -/
def createTableAs (database : Database) (temporary ifAbsent : Bool) (name : ObjectName)
    (parameters : List (Text × Cell)) (checking : Bool) (query : SqlQuery) :
    Except SqlRefusal Database := do
  checkNewPlace name
  if !isPassing temporary name then
    if !(← database.isNewTable ifAbsent name) then return database
  let result ← query.evaluate { database, parameters, checking }
  if isPassing temporary name then return database
  let columns := resultColumns [] result.columns
  let rows := result.rows.zipIdx.map fun entry : List Cell × Nat =>
    ({ id := entry.2 + 1
       cells := (columns.zip entry.1).map fun cell => SqlTable.store cell.1 cell.2 } : SqlRow)
  return database.addTable { name := name.name, columns, rows } []

/-- The keys of the rows that an index covers; no two of them are the same if it is unique. -/
def checkIndex (table : SqlTable) (index : SqlIndex) : Except SqlRefusal Unit := do
  let keys ← table.rows.filterMapM (table.indexKey? index)
  if index.unique then
    let _ ← keys.foldlM (fun seen key =>
      if seen.any (index.sameKey key) then .error (index.clash table.name)
      else .ok (key :: seen)) []

def createIndex (database : Database) (text : IndexText) : Except SqlRefusal Database := do
  TableDraft.checkNulls text.terms
  let absent (name : Text) : SqlRefusal := .noObject .table name
  if let some place := text.name.database then
    if sameName place "temp" then
      if let some table := database.table? text.table then throw (.passingIndex table.name)
      throw (absent text.table)
    if !isMain text.name.database then throw (.noDatabase place)
  match database.table? text.table with
  | none =>
      if (database.view? text.table).isSome then throw .viewNotIndexable
      if let some master := master? text.table then throw (.notIndexable master)
      if (virtual? text.table).isSome then throw (.virtualFixed "indexed")
      throw (absent (("main." : Text) ++ text.table))
  | some table =>
      let name := text.name.name
      if isReserved table.name then throw (.notIndexable table.name)
      if isReserved name then throw (.reservedName name)
      if (database.table? name).isSome || (database.view? name).isSome then
        throw (.tableNamed name)
      if (database.index? name).isSome then
        if text.ifAbsent then return database else throw (.objectExists .index name)
      for term in text.terms do
        if let .by (.collate _ collation) _ _ := term then
          if (Collation.ofName? collation).isNone then throw (.noCollation collation)
      let index : SqlIndex :=
        { name, table := table.name, terms := text.terms.map (TableDraft.indexTerm table)
          unique := text.unique, condition := text.condition }
      for term in index.terms do
        table.checkRule .indexes term.value
      if let some condition := index.condition then table.checkRule .partialIndexes condition
      checkIndex table index
      checkReadable text.ifAbsent text.name "ON"
      return { database with indexes := database.indexes ++ [index] }

def createView (database : Database) (temporary ifAbsent : Bool) (name : ObjectName)
    (columns : List Text) (query : SqlQuery) : Except SqlRefusal Database := do
  checkNewPlace name
  if isPassing temporary name then return database
  if !(← database.isNewTable ifAbsent name) then return database
  checkReadable ifAbsent name "AS"
  return { database with views := database.views ++ [{ name := name.name, columns, query }] }

def createTrigger (database : Database) (text : TriggerText) : Except SqlRefusal Database := do
  checkNewPlace text.name
  let table := text.table.name
  let absent : SqlRefusal := .noObject .table (("main." : Text) ++ table)
  if !isMain text.table.database then throw (.noObject .table text.table.shown)
  let view := database.view? table
  if (database.table? table).isNone && view.isNone then
    if (master? table).isSome then throw (.other "cannot create trigger on system table")
    if (virtual? table).isSome then throw (.other "cannot create triggers on virtual tables")
    throw absent
  let name := text.name.name
  if isReserved name then throw (.reservedName name)
  if (database.trigger? name).isSome then
    if text.ifAbsent then return database
    throw (.objectExists .trigger text.name.written)
  if isReserved table then throw (.other "cannot create trigger on system table")
  match view with
  | some view =>
      if text.time ≠ .instead then
        throw (.triggerOnView view.name (if text.time = .before then "BEFORE" else "AFTER"))
  | none => if text.time = .instead then throw (.triggerOnTable table)
  if isPassing text.temporary text.name then return database
  checkReadable text.ifAbsent text.name "ON"
  return { database with
    triggers := database.triggers ++
      [{ name, table, time := text.time, event := text.event, condition := text.condition
         steps := text.steps }] }

/-- The table that is to be altered, which must be one of the database. -/
def alterable (database : Database) (name : ObjectName) (onView : Text → SqlRefusal) :
    Except SqlRefusal SqlTable := do
  if !isMain name.database then throw (.noObject .table name.shown)
  match database.table? name.name, database.view? name.name with
  | some table, _ =>
      if isReserved table.name then throw (.notAlterable table.name)
      return table
  | none, some view => throw (onView view.name)
  | none, none =>
      if let some master := master? name.name then throw (.notAlterable master)
      if let some table := virtual? name.name then throw (.notAlterable table.name)
      throw (.noObject .table name.shown)

/-- A row with the value of a new column.  Columns that are not stored are calculated anew, since
they may need the new one. -/
def newColumnValue (column : ColumnDefinition) (row : SqlRow) (table : SqlTable) :
    Except SqlRefusal SqlRow := do
  let cell := (column.standard.bind SqlExpression.literal?).getD .null
  let longer := { row with cells := row.cells ++ [SqlTable.store column cell] }
  let known := (table.columns.filter ColumnDefinition.isKept).map fun column => column.name
  match table.calculatedFrom (table.columns.length + 1) known longer with
  | .error (.generatedLoop _) => return longer
  | result => result

/-- Refuses a new column with which the rows that are there would break its rules. -/
def checkNewColumn (draft : TableDraft) (hasRows : Bool) (column : ColumnDefinition) :
    Except SqlRefusal Unit := do
  if draft.hasPrimary then throw .keyColumn
  if !draft.indexes.isEmpty then throw .uniqueColumn
  let standard :=
    match column.standard with
    | some (.constant .null) => none
    | other => other
  match column.generated with
  | none =>
      if column.notNull && standard.isNone && hasRows then throw .unsetColumn
      if let some value := standard then
        if value.literal?.isNone && hasRows then throw .unpredictableColumn
  | some (_, stored) => if stored && hasRows then throw .storedColumn

def addColumn (database : Database) (name : ObjectName) (elements : List TableElement)
    (broken : Option SqlRefusal) (isOpen : Bool) : Except SqlRefusal Database := do
  if !isMain name.database then throw (.noObject .table name.shown)
  if (database.table? name.name).isNone && (database.view? name.name).isNone &&
      (master? name.name).isNone && (virtual? name.name).isSome then
    throw (.virtualFixed "altered")
  let found ← database.alterable name fun _ => .viewColumn
  let draft ← elements.foldlM TableDraft.add { table := { found with primary := [], checks := [] } }
  if let some fault := broken then throw fault
  match draft.last? with
  | none => return database
  | some column =>
      checkNewColumn draft (!found.rows.isEmpty) column
      let table := { draft.table with
        primary := found.primary, checks := found.checks ++ draft.table.checks }
      if isOpen then
        throw (.brokenBy "add column" .table found.name SqlRefusal.incomplete.message)
      if let .error fault := table.checkRules then
        throw
          (match fault with
          | .noFunction name => .unknownFunction name
          | fault => .brokenBy "add column" .table found.name fault.message)
      let rows ← found.rows.mapM fun row => newColumnValue column row table
      for row in rows do
        for check in draft.table.checks do
          let cell ← check.condition.evaluate (table.ruleSurroundings .checks row)
          if cell.truth? = some false then throw (.brokenRows "CHECK")
        if column.notNull && (row.cells.getLastD .null).isNull then throw (.brokenRows "NOT NULL")
      return database.update found.name fun _ => { table with rows }

/-- The name and the fault of a view that is broken. -/
def brokenView? (database : Database) : Option (Text × SqlRefusal) :=
  database.views.findSome? fun view =>
    match view.query.check { database, defined := true } with
    | .error fault => some (view.name, fault)
    | .ok _ => none

/-- Refuses to rename anything while a view is broken. -/
def checkViews (database : Database) : Except SqlRefusal Unit :=
  match database.brokenView? with
  | some (view, fault) =>
      .error (.other (("error in view " : Text) ++ view ++ ": " ++ fault.message))
  | none => .ok ()

def dropColumn (database : Database) (name : ObjectName) (column : Text) :
    Except SqlRefusal Database := do
  let found ← database.alterable name fun view => .viewColumnsFixed "drop column from" view
  match found.columnIndex? column, found.column? column with
  | some position, some definition =>
      if found.primary.any (sameName column) then
        throw (.uniqueColumnDropped "PRIMARY KEY" column)
      if definition.unique then throw (.uniqueColumnDropped "UNIQUE" column)
      if found.columns.length = 1 then throw (.lastColumn column)
      let table := { found with
        columns := found.columns.eraseIdx position
        checks := found.checks.filter fun check =>
          !check.column.any (sameName column)
        rows := found.rows.map fun row => { row with cells := row.cells.eraseIdx position } }
      for index in database.indexes do
        if sameName index.table found.name && index.implied then
          if let some used := (index.columns?.getD []).find? (sameName column) then
            throw (.brokenBy "drop column" .table found.name (SqlRefusal.noColumn [used]).message)
      if let .error fault := table.checkRules then
        throw (.brokenBy "drop column" .table found.name fault.message)
      for index in database.indexes do
        if sameName index.table found.name && !index.implied then
          for value in index.terms.map IndexTerm.value ++ index.condition.toList do
            if let .error fault := table.checkRule .indexes value then
              throw (.brokenBy "drop column" .index index.name fault.message)
      let changed := database.update found.name fun _ => table
      match changed.brokenView? with
      | some (view, fault) => throw (.brokenBy "drop column" .view view fault.message)
      | none => return changed
  | _, _ => throw (.noColumnToChange column)

def renameColumn (database : Database) (name : ObjectName) (column newName : Text) :
    Except SqlRefusal Database := do
  let found ← database.alterable name fun view => .viewColumnsFixed "rename columns of" view
  match found.column? column with
  | none => throw (.noColumnToChange column)
  | some definition =>
      if !sameName column newName && (found.column? newName).isSome then
        let reason := (SqlRefusal.duplicateColumn newName).message
        throw (.brokenBy "rename" .table found.name reason)
      database.checkViews
      let rename := SqlExpression.renamed definition.name newName evaluationDepth
      let renameName (other : Text) : Text := if sameName other column then newName else other
      let table := { found with
        columns := found.columns.map fun other =>
          { other with
            name := renameName other.name
            generated := other.generated.map fun value => (rename value.1, value.2) }
        checks := found.checks.map fun check =>
          { check with condition := rename check.condition, column := check.column.map renameName }
        primary := found.primary.map renameName
        idColumn := found.idColumn.map renameName }
      return { database.update found.name fun _ => table with
        indexes := database.indexes.map fun index =>
          if sameName index.table found.name then
            { index with
              terms := index.terms.map fun term => { term with value := rename term.value }
              condition := index.condition.map rename }
          else index }

/-- Gives a table another name.  Its indexes and triggers go with it. -/
def renameTable (database : Database) (name : ObjectName) (newName : Text) :
    Except SqlRefusal Database := do
  if !isMain name.database then throw (.noObject .table name.shown)
  if (database.table? name.name).isNone && (database.view? name.name).isNone &&
      (master? name.name).isNone && (virtual? name.name).isNone then
    throw (.noObject .table name.shown)
  if (database.table? newName).isSome || (database.view? newName).isSome ||
      (database.index? newName).isSome then
    throw (.nameTaken newName)
  let found ← database.alterable name .viewNotAlterable
  if isReserved newName then throw (.reservedName newName)
  database.checkViews
  let implied := database.indexes.filter fun index =>
    sameName index.table found.name && index.implied
  let impliedName (index : SqlIndex) : Text :=
    let position := (implied.findIdx? fun other => sameName other.name index.name).getD 0
    ("sqlite_autoindex_" : Text) ++ newName ++ "_" ++ Text.ofNat (position + 1)
  return { database.update found.name fun _ => { found with name := newName } with
    indexes := database.indexes.map fun index =>
      if !sameName index.table found.name then index
      else if !index.implied then { index with table := newName }
      else { index with table := newName, name := impliedName index }
    triggers := database.triggers.map fun trigger =>
      if sameName trigger.table found.name then { trigger with table := newName } else trigger }

/-- Removes a table, a view, an index or a trigger with what belongs to it. -/
def drop (database : Database) (kind : SqlObject) (ifPresent : Bool) (name : ObjectName) :
    Except SqlRefusal Database := do
  let absent : Except SqlRefusal Database :=
    if ifPresent then .ok database else .error (.noObject kind name.shown)
  if !isMain name.database then return ← absent
  match kind with
  | .index =>
      match database.index? name.name with
      | none => absent
      | some index =>
          if index.implied then throw .impliedIndex
          return { database with
            indexes := database.indexes.filter fun other => !sameName other.name index.name }
  | .trigger =>
      match database.trigger? name.name with
      | none => absent
      | some trigger =>
          return { database with
            triggers := database.triggers.filter fun other => !sameName other.name trigger.name }
  | kind =>
      match database.table? name.name, database.view? name.name with
      | some table, _ =>
          if isReserved table.name && !table.name.toAsciiLower.startsWith "sqlite_stat" then
            throw (.notDroppable table.name)
          if kind = .view then throw (.otherKind .table table.name)
          let others (other : Text) : Bool := !sameName other table.name
          let remaining := { database with
            tables := database.tables.filter fun other => others other.name
            indexes := database.indexes.filter fun index => others index.table
            triggers := database.triggers.filter fun trigger => others trigger.table }
          return remaining.update sequenceTable.name fun sequence =>
            { sequence with rows := sequence.rows.filter fun row =>
                match row.cells with
                | .text counted :: _ => others counted
                | _ => true }
      | none, some view =>
          if kind = .table then throw (.otherKind .view view.name)
          return { database with
            views := database.views.filter fun other => !sameName other.name view.name
            triggers := database.triggers.filter fun trigger => !sameName trigger.table view.name }
      | none, none =>
          if let some master := master? name.name then throw (.notDroppable master)
          if let some table := virtual? name.name then throw (.notDroppable table.name)
          absent

end Database

end EventForge
