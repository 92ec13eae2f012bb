import EventForge.Sql.Definition

/-!
# The rules of a table

A row is put into a table only if it keeps the rules of the table: no value is missing that must be
there, every condition holds, and no key is that of another row.  A conflict with a rule gives up
the statement or the row, or removes the row in the way.
-/

namespace EventForge

/-- A key of a table: the number of a row, or the cells of a unique index. -/
inductive RowKey
  | id
  | index (index : SqlIndex)

/-- What becomes of a row that is to be put into a table. -/
inductive Settlement
  /-- The row is put into the table, from which those in the way are removed. -/
  | stored (table : SqlTable)
  | ignored
  /-- The row that is in the way is changed instead. -/
  | merged (row : SqlRow) (upsert : Upsert)

namespace SqlTable

/-- A row with its number in the column for it. -/
def identified (table : SqlTable) (row : SqlRow) : SqlRow :=
  match table.idColumn.bind table.columnIndex? with
  | some position => { row with cells := row.cells.set position (.integer row.id) }
  | none => row

/-- The number that a value is for a row. -/
def idOf (cell : Cell) : Except SqlRefusal Int :=
  match cell.stored .integer with
  | .integer id => .ok id
  | _ => .error .wrongType

/-- The value of a column where none is given. -/
def standardValue (database : Database) (column : ColumnDefinition) : Except SqlRefusal Cell :=
  match column.standard with
  | some value =>
      (value.evaluate { database }).mapError fun fault =>
        match fault with
        | .noFunction name | .argumentCount name | .misusedAggregate _ name => .unknownFunction name
        | fault => fault
  | none => .ok .null

/-- A row in which no value is missing that must be there; `none` if the row is given up. -/
def present? (table : SqlTable) (database : Database) (resolution : Option Resolution)
    (row : SqlRow) : Except SqlRefusal (Option SqlRow) := do
  let cells ← (table.columns.zip row.cells).mapM fun entry => do
    let (column, cell) := entry
    if !(column.notNull && cell.isNull) then return some cell
    let fault := SqlRefusal.notSet table.name column.name
    match resolution <|> column.notNullResolution with
    | some .ignore => return none
    | some .replace =>
        let standard := table.storeIn column (← standardValue database column)
        if standard.isNull then throw fault
        return some standard
    | _ => throw fault
  return (cells.mapM id).map fun cells => { row with cells }

/-- Refuses a row of a strict table with a value of another type than its column. -/
def checkTypes (table : SqlTable) (row : SqlRow) : Except SqlRefusal Unit := do
  if table.strict then
    for (column, cell) in table.columns.zip row.cells do
      let fits : Bool :=
        match (column.typeName.toAsciiLower).toString, cell with
        | _, .null | "any", _ | "int", .integer _ | "integer", .integer _ | "real", .real _
        | "text", .text _ | "blob", .blob _ => true
        | _, _ => column.generated.isSome
      let value : Text :=
        match cell with
        | .null => "NULL"
        | .integer _ => "INT"
        | other => SqlRefusal.capitals (SqlFunction.typeOf other)
      if !fits then
        throw (.strictType value (SqlRefusal.capitals column.typeName) table.name column.name)

/-- The label of a condition that a row does not meet. -/
def brokenCheck? (table : SqlTable) (row : SqlRow) : Except SqlRefusal (Option Text) := do
  for check in table.checks do
    let cell ← check.condition.evaluate (table.ruleSurroundings .checks row)
    if cell.truth? == some false then return some check.label
  return none

/-- A row of a table with the same key; the row that is replaced does not count. -/
def clashing? (table : SqlTable) (replaced : Option Int) (row : SqlRow) (key : RowKey) :
    Except SqlRefusal (Option SqlRow) := do
  let others := table.rows.filter fun other => some other.id ≠ replaced
  match key with
  | .id => return others.find? fun other => other.id = row.id
  | .index index =>
      match ← table.indexKey? index row with
      | none => return none
      | some cells =>
          others.findM? fun other => do
            return (← table.indexKey? index other).any (index.sameKey cells)

/-- The refusal of a second row with the same key. -/
def clash (table : SqlTable) : RowKey → SqlRefusal
  | .id => .notUnique [table.name ++ "." ++ table.idColumn.getD "rowid"]
  | .index index => index.clash table.name

/-- What settles a conflict with a key, if the statement does not say so. -/
def keyResolution (table : SqlTable) : RowKey → Option Resolution
  | .id => table.idResolution
  | .index index => index.resolution

/-- The keys of a table, in the order in which rows are compared.  Keys for which other rows are
removed come last. -/
def keys (table : SqlTable) (database : Database) : List RowKey :=
  let unique := (database.indexesOf table.name).filter fun index => index.unique
  let isReplacing (index : SqlIndex) : Bool := index.resolution = some .replace
  let ordered := unique.filter (fun index => !isReplacing index) ++ unique.filter isReplacing
  (if table.hasIds then [RowKey.id] else []) ++ ordered.map RowKey.index

/-- Whether the columns that an insertion lists are those of a key. -/
def isTarget (table : SqlTable) (names : List Text) : RowKey → Bool
  | .id =>
      match names with
      | [name] =>
          table.idColumn.any (sameName name) ||
            (table.column? name).isNone && Frame.idNames.contains name.toAsciiLower
      | _ => false
  | .index index =>
      match index.columns? with
      | some columns =>
          columns.length = names.length && columns.all fun column => names.any (sameName column)
      | none => false

/-- What an insertion does about a conflict with a key. -/
def upsertFor? (table : SqlTable) (upserts : List Upsert) (key : RowKey) : Option Upsert :=
  upserts.find? fun upsert =>
    match upsert.target with
    | none => true
    | some (terms, _) =>
        isTarget table (terms.filterMap fun term => (TableDraft.indexTerm table term).value.column?)
          key

/-- What becomes of a row that keeps the other rules, by the keys of the table. -/
def settleKeys (table : SqlTable) (resolution : Option Resolution) (upserts : List Upsert)
    (replaced : Option Int) (row : SqlRow) : List RowKey → Except SqlRefusal Settlement
  | [] =>
      let others := table.rows.filter fun other => some other.id ≠ replaced
      .ok (.stored { table with rows := addRow row others })
  | key :: keys => do
      match ← table.clashing? replaced row key with
      | none => settleKeys table resolution upserts replaced row keys
      | some other =>
          match table.upsertFor? upserts key with
          | some upsert =>
              return if upsert.changes.isSome then .merged other upsert else .ignored
          | none =>
              match (resolution <|> table.keyResolution key).getD .abort with
              | .ignore => return .ignored
              | .replace =>
                  let rows := table.rows.filter fun kept => kept.id ≠ other.id
                  settleKeys { table with rows } resolution upserts replaced row keys
              | _ => throw (table.clash key)

/-- What becomes of a row that is to be put into a table, perhaps in place of another one. -/
def settle (table : SqlTable) (database : Database) (resolution : Option Resolution)
    (upserts : List Upsert) (replaced : Option Int) (row : SqlRow) :
    Except SqlRefusal Settlement := do
  let row ← table.calculated (table.identified row)
  table.checkTypes row
  match ← table.present? database resolution row with
  | none => return .ignored
  | some row =>
      match ← table.brokenCheck? row with
      | some label =>
          if resolution = some .ignore then return .ignored
          throw (.checkFailed label)
      | none =>
          let keys := table.keys database
          let isMerging (key : RowKey) : Bool := (table.upsertFor? upserts key).isSome
          table.settleKeys resolution upserts replaced row
            (keys.filter isMerging ++ keys.filter fun key => !isMerging key)

end SqlTable

end EventForge
