import EventForge.Sql.Constraint

/-!
# Changing rows

Rows are inserted, changed and removed one after the other.  The triggers of a table are performed
in front of a change or behind it; a view has no rows of its own, and triggers stand for its
changes.  A statement is checked by performing it on a row of which nothing is known.
-/

namespace EventForge

/-- What happens to a row. -/
inductive RowEvent
  | insert
  | delete
  | update (columns : List Text)

/-- What a change is about: a table, or a view as a table without rows. -/
structure ChangeTarget where
  table : SqlTable
  isView : Bool := false

/-- What triggers leave behind: the database, and whether one of them gave up the row.  What was
changed before it gave up stays. -/
structure Fired where
  database : Database
  ignored : Bool := false

/-- What holds for all statements that one statement leads to. -/
structure ChangeContext where
  /-- The triggers that are being performed. -/
  active : List Text := []
  /-- What settles conflicts in all of them. -/
  resolution : Option Resolution := none

namespace SqlTrigger

/-- Whether a trigger waits for an event. -/
def awaits (trigger : SqlTrigger) (event : RowEvent) : Bool :=
  match trigger.event, event with
  | .insert, .insert | .delete, .delete | .update none, .update _ => true
  | .update (some columns), .update changed =>
      columns.any fun column => changed.any (sameName column)
  | _, _ => false

end SqlTrigger

namespace Database

/-- The triggers of a table for an event, those made last first. -/
def triggersFor (database : Database) (table : Text) (event : RowEvent) : List SqlTrigger :=
  (database.triggers.filter fun trigger =>
    sameName trigger.table table && trigger.awaits event).reverse

/-- The columns of a view as a table without rows. -/
def viewTable (database : Database) (view : SqlView) : Except SqlRefusal SqlTable := do
  let source : SqlSource := .table (some "main") view.name none none
  let columns ← SqlQuery.check { database, defined := true }
    (.select false [.all] [.joined {} source none []] none [] none)
  return {
    name := view.name, hasIds := false
    columns := columns.columns.map fun column => { name := column.name, typeName := [] } }

/-- The table or view that a statement changes. -/
def changeTarget (database : Database) (defined : Bool) (name : ObjectName) (event : RowEvent) :
    Except SqlRefusal ChangeTarget := do
  let shown := if defined then { name with database := some "main" } else name
  let absent : SqlRefusal := .noObject .table shown.shown
  if !isMain name.database then throw absent
  match database.table? name.name, database.view? name.name with
  | some table, _ => return { table }
  | none, some view =>
      let table ← database.viewTable view
      if (database.triggersFor view.name event).isEmpty then throw (.viewNotModifiable view.name)
      return { table, isView := true }
  | none, none =>
      if let some master := master? name.name then throw (.notModifiable master)
      if let some table := virtual? name.name then throw (.notModifiable table.name)
      throw absent

/-- The greatest number given out in a table whose numbers are never given out twice. -/
def lastCounted (database : Database) (table : Text) : Int :=
  let counts := ((database.table? sequenceTable.name).toList.flatMap SqlTable.rows).filterMap
    fun row : SqlRow =>
      match row.cells with
      | [.text name, .integer count] => if sameName name table then some count else none
      | _ => none
  counts.foldl max 0

/-- Notes a number that is given out in a table whose numbers are never given out twice. -/
def noteCounted (database : Database) (table : Text) (id : Int) : Database :=
  let isOf (row : SqlRow) : Bool :=
    match row.cells with
    | .text name :: _ => sameName name table
    | _ => false
  database.update sequenceTable.name fun sequence =>
    let count := max id (database.lastCounted table)
    let cells : List Cell := [.text table, .integer count]
    if sequence.rows.any isOf then
      { sequence with
        rows := sequence.rows.map fun row => if isOf row then { row with cells } else row }
    else
      { sequence with rows := SqlTable.addRow { id := sequence.lastId + 1, cells } sequence.rows }

/-- The number of a new row. -/
def newId (database : Database) (table : SqlTable) : Int :=
  if table.counted then max table.lastId (database.lastCounted table.name) + 1
  else table.lastId + 1

end Database

namespace ChangeTarget

/-- A row under a name that triggers know it by. -/
def scopeRow (target : ChangeTarget) (name : Text) (row : SqlRow) : ScopeRow :=
  let scope := { ScopeTable.ofTable target.table name with kept := false, hasIds := !target.isView }
  { table := scope, cells := row.cells, id := some row.id }

/-- The row that an insertion gives up for another one.  Its columns are named in full. -/
def excludedRow (target : ChangeTarget) (row : SqlRow) : ScopeRow :=
  let found := target.scopeRow "excluded" row
  { found with table := { found.table with
    columns := found.table.columns.map fun column => { column with repeated := true } } }

/-- What triggers see: the row before a change and the row after it. -/
def frame (target : ChangeTarget) (old new : Option SqlRow) : Frame :=
  old.toList.map (target.scopeRow "old") ++ new.toList.map (target.scopeRow "new")

/-- A row of which nothing is known. -/
def unknownRow (target : ChangeTarget) : SqlRow :=
  { id := 0, cells := target.table.columns.map fun _ => .null }

end ChangeTarget

/-- Where the values of an insertion belong: for each column the position of its value, and the
position of the number of the row. -/
structure InsertionPlan where
  columns : List (Option Nat)
  id : Option Nat

namespace Insertion

/-- The table of an insertion by the name that refusals use. -/
def shown (insertion : Insertion) : Text := insertion.otherName.getD insertion.table.shown

/-- The position of a name among those that an insertion lists. -/
def listedPosition? (names : List Text) (column : ColumnDefinition) : Option Nat :=
  names.findIdx? (sameName column.name)

/-- Refuses names that an insertion cannot list. -/
def checkListed (insertion : Insertion) (table : SqlTable) (isView : Bool) (name : Text) :
    Except SqlRefusal Unit :=
  match table.column? name with
  | some column =>
      if column.generated.isSome then .error (.changedGenerated "INSERT into" column.name)
      else .ok ()
  | none =>
      if (table.hasIds || isView) && Frame.idNames.contains name.toAsciiLower then .ok ()
      else .error (.noTableColumn insertion.shown name)

/-- Where the values of an insertion belong. -/
def plan (insertion : Insertion) (target : ChangeTarget) (width : Nat) :
    Except SqlRefusal InsertionPlan := do
  let table := target.table
  match insertion.columns with
  | some names =>
      if names.length ≠ width then throw (.listedCount names.length width)
      let isId (name : Text) : Bool :=
        (table.column? name).isNone || table.idColumn.any (sameName name)
      let last := (names.reverse.findIdx? isId).map fun position => names.length - 1 - position
      return { columns := table.columns.map (listedPosition? names), id := last }
  | none =>
      let given := table.givenColumns
      if given.length ≠ width && insertion.rows.isSome then
        throw (.valueCount insertion.shown given.length width)
      let names := if insertion.rows.isSome then given.map fun column => column.name else []
      return {
        columns := table.columns.map (listedPosition? names)
        id := table.idColumn.bind fun column => names.findIdx? (sameName column) }

/-- The row of an insertion with some values, and the number that is given for it. -/
def newRow (database : Database) (table : SqlTable) (plan : InsertionPlan) (values : List Cell) :
    Except SqlRefusal (List Cell × Cell) := do
  let cells ← (table.columns.zip plan.columns).mapM fun entry => do
    match entry.2 with
    | some position => return table.storeIn entry.1 (values.getD position .null)
    | none =>
        if entry.1.generated.isSome then return .null
        return table.storeIn entry.1 (← SqlTable.standardValue database entry.1)
  return (cells, (plan.id.bind fun position => values[position]?).getD .null)

end Insertion

/-- A column that is assigned a value; none is the number of the row. -/
abbrev AssignedColumn := Option Nat

namespace SqlTable

/-- The column that an assignment is to. -/
def assignedColumn (table : SqlTable) (isView : Bool) (name : Text) :
    Except SqlRefusal AssignedColumn :=
  match table.columnIndex? name, table.column? name with
  | some position, some column =>
      if column.generated.isSome then .error (.changedGenerated "UPDATE" column.name)
      else if table.idColumn.any (sameName name) then .ok none
      else .ok (some position)
  | _, _ =>
      if (table.hasIds || isView) && Frame.idNames.contains name.toAsciiLower then .ok none
      else .error (.noColumn [name])

/-- A row with a value assigned to a column. -/
def assign (table : SqlTable) (row : SqlRow) (assigned : AssignedColumn × Cell) :
    Except SqlRefusal SqlRow :=
  match assigned.1 with
  | none => do
      if table.idColumn.isNone && !table.hasIds then return row
      return { row with id := ← idOf assigned.2 }
  | some position =>
      match table.columns[position]? with
      | some column =>
          .ok { row with cells := row.cells.set position (table.storeIn column assigned.2) }
      | none => .ok row

end SqlTable

namespace Change

/-- The values that some columns are assigned. -/
def assignedValues (around : Surroundings) (columns : List Text) (value : SqlExpression) :
    Except SqlRefusal (List (Text × Cell)) := do
  match columns, value with
  | [column], value => return [(column, ← value.evaluate around)]
  | columns, .row items =>
      if items.length ≠ columns.length then
        throw (.assignedCount columns.length items.length)
      return columns.zip (← items.mapM fun item => item.evaluate around)
  | columns, .scalar query =>
      let table ← query.evaluate around
      if table.columns.length ≠ columns.length then
        throw (.assignedCount columns.length table.columns.length)
      return columns.zip (table.rows.headD (columns.map fun _ => .null))
  | columns, _ => throw (.assignedCount columns.length 1)

/-- A row with the values that some assignments give it. -/
def assignAll (around : Surroundings) (target : ChangeTarget)
    (changes : List (List Text × SqlExpression)) (row : SqlRow) : Except SqlRefusal SqlRow := do
  let assigned ← changes.mapM fun change => do
    let values ← assignedValues around change.1 change.2
    values.mapM fun value => do
      return (← target.table.assignedColumn target.isView value.1, value.2)
  if around.checking then return row
  assigned.flatten.foldlM target.table.assign row

/-- Whether a condition holds. -/
def holds (around : Surroundings) : Option SqlExpression → Except SqlRefusal Bool
  | none => .ok true
  | some condition => do
      let cell ← condition.evaluate around
      return cell.truth? == some true || around.checking

/-- Rows in an order, of which only a part is kept. -/
def selected (around : Surroundings) (verb : Text) (order : List OrderTerm)
    (limit offset : Option SqlExpression) (frames : List Frame) :
    Except SqlRefusal (List Frame) := do
  if !order.isEmpty && limit.isNone then
    throw (.other (("ORDER BY without LIMIT on " : Text) ++ verb))
  let keyed ← frames.mapM fun frame => do
    let cells ← order.mapM fun term =>
      match term with
      | .by value _ _ => value.evaluate (around.within frame)
    return (frame, cells)
  let directions := order.map fun term =>
    match term with
    | .by _ descending nullsLast => (Collation.binary, descending, nullsLast.getD descending)
  let sorted := keyed.mergeSort fun first second =>
    ResultTable.keysLe directions first.2 second.2
  let count := Evaluation.countAt evaluationDepth around
  return (ResultTable.limited (← limit.mapM count) (← offset.mapM count)
    (sorted.map fun entry => entry.1))

/-- The rows that a condition selects among those of a table and of further sources. -/
def matching (around : Surroundings) (name : ObjectName) (otherName : Option Text)
    (sources : List JoinedSource) (condition : Option SqlExpression) :
    Except SqlRefusal (List Frame) := do
  let first : JoinedSource := .joined {} (.table name.database name.name otherName none) none []
  let found ← Evaluation.sourcesAt evaluationDepth around (first :: sources)
  let frames := if around.checking then [found.unknown] else found.frames
  frames.filterM fun frame => holds (around.within frame) condition

/-- The frame of a row of the table that is changed. -/
def frameOf (target : ChangeTarget) (name : ObjectName) (otherName : Option Text) (row : SqlRow) :
    ScopeRow :=
  { table := ScopeTable.ofTable target.table (otherName.getD name.name)
    cells := row.cells, id := some row.id }

/-- Checks the columns that a statement returns, among those of the table that is changed. -/
def checkReturning (around : Surroundings) (row : ScopeRow) (columns : List ResultColumn) :
    Except SqlRefusal Unit :=
  columns.forM fun column =>
    match column with
    | .all => .ok ()
    | .allOf _ => .error (.other "RETURNING may not use \"TABLE.*\" wildcards")
    | .value value _ _ => value.check (around.within [row])

/-- The rows of a frame without those of the table that is changed, and that row. -/
def split (target : ChangeTarget) (frame : Frame) : SqlRow × Frame :=
  match frame with
  | row :: others => ({ id := row.id.getD 0, cells := row.cells }, others)
  | [] => (target.unknownRow, [])

/-- Checks what an insertion does about conflicts. -/
def checkUpserts (around : Surroundings) (target : ChangeTarget) (insertion : Insertion) :
    Except SqlRefusal Unit := do
  let row := frameOf target insertion.table insertion.otherName target.unknownRow
  for upsert in insertion.upserts do
    if target.isView then throw (.other "cannot UPSERT a view")
    if let some (terms, condition) := upsert.target then
      for term in terms do
        let .by value _ _ := term
        value.check (around.within [row])
      if let some condition := condition then condition.check (around.within [row])
      let keys := (target.table.keys around.database).filter fun key =>
        (target.table.upsertFor? [upsert] key).isSome
      if keys.isEmpty then throw .conflictTarget
  for upsert in insertion.upserts do
    if let some (changes, condition) := upsert.changes then
      let inner := around.within [row, target.excludedRow target.unknownRow]
      let _ ← assignAll { inner with checking := true } target changes target.unknownRow
      let _ ← holds { inner with checking := true } condition

/-- What a part of a trigger leads to: one that gives up the row leaves the database as it was. -/
def ignoring (before : Database) : Except SqlRefusal Database → Except SqlRefusal Fired
  | .ok database => .ok { database }
  | .error .rowIgnored => .ok { database := before, ignored := true }
  | .error fault => .error fault

mutual

/-- Performs triggers on a change of a row, up to one that gives it up. -/
def fireAt : Nat → ChangeContext → Surroundings → List SqlTrigger → Frame →
    Except SqlRefusal Fired
  | 0, _, _, _, _ => .error (.other "too many levels of trigger recursion")
  | fuel + 1, context, around, triggers, frame =>
      triggers.foldlM (fun fired trigger => do
        if fired.ignored || context.active.contains trigger.name then return fired
        let around := { around with
          database := fired.database, frames := [frame], inTrigger := true, defined := true
          shared := [] }
        match holds around trigger.condition with
        | .error .rowIgnored => return { fired with ignored := true }
        | .error fault => throw fault
        | .ok false => return fired
        | .ok true =>
            let context := { context with active := trigger.name :: context.active }
            trigger.steps.foldlM (fun fired step => do
              if fired.ignored then return fired
              ignoring fired.database
                (performAt fuel context { around with database := fired.database } step)) fired)
        { database := around.database }

/-- Performs the triggers of a table that are due at a time. -/
def fireDueAt : Nat → ChangeContext → Surroundings → ChangeTarget → TriggerTime → RowEvent →
    Frame → Except SqlRefusal Fired
  | 0, _, _, _, _, _, _ => .error .tooDeep
  | fuel + 1, context, around, target, time, event, frame =>
      let triggers := (around.database.triggersFor target.table.name event).filter fun trigger =>
        trigger.time = time || around.checking
      if triggers.isEmpty then .ok { database := around.database }
      else fireAt fuel context around triggers frame

/-- Inserts a row. -/
def insertRowAt : Nat → ChangeContext → Surroundings → ChangeTarget → Insertion →
    Option Resolution → InsertionPlan → List Cell → Except SqlRefusal Database
  | 0, _, _, _, _, _, _, _ => .error .tooDeep
  | fuel + 1, context, around, target, insertion, resolution, plan, values => do
      let (cells, given) ← Insertion.newRow around.database target.table plan values
      let known ← if given.isNull then pure none else some <$> SqlTable.idOf given
      let early : SqlRow := target.table.identified { id := known.getD (-1), cells }
      if target.isView then
        return (← fireDueAt fuel context around target .instead .insert
          (target.frame none (some { early with cells }))).database
      let fired ← fireDueAt fuel context around target .before .insert
        (target.frame none (some early))
      let database := fired.database
      if fired.ignored then return database
      match database.table? target.table.name with
      | none => return database
      | some table =>
          let row : SqlRow := { id := known.getD (database.newId table), cells }
          match ← table.settle database resolution insertion.upserts none row with
          | .ignored => return database
          | .stored changed =>
              let database := database.update table.name fun _ => changed
              let database :=
                if table.counted then database.noteCounted table.name row.id else database
              let row := (changed.rows.find? fun found => found.id = row.id).getD row
              return (← fireDueAt fuel context { around with database } target .after .insert
                (target.frame none (some row))).database
          | .merged old upsert =>
              let (changes, condition) := upsert.changes.getD ([], none)
              let excluded := target.excludedRow (table.identified row)
              let around := { around with database }
              let inner := around.within
                [frameOf target insertion.table insertion.otherName old, excluded]
              if !(← holds inner condition) then return database
              let new ← assignAll inner target changes old
              replaceRowAt fuel context around target none
                (.update (changes.flatMap fun change => change.1)) old new

/-- Puts a row in the place of another one. -/
def replaceRowAt : Nat → ChangeContext → Surroundings → ChangeTarget → Option Resolution →
    RowEvent → SqlRow → SqlRow → Except SqlRefusal Database
  | 0, _, _, _, _, _, _, _ => .error .tooDeep
  | fuel + 1, context, around, target, resolution, event, old, new => do
      let frame := target.frame (some old) (some new)
      if target.isView then
        return (← fireDueAt fuel context around target .instead event frame).database
      let fired ← fireDueAt fuel context around target .before event frame
      let database := fired.database
      if fired.ignored then return database
      match database.table? target.table.name with
      | none => return database
      | some table =>
          if !table.rows.any fun row => row.id = old.id then return database
          match ← table.settle database resolution [] (some old.id) new with
          | .stored changed =>
              let database := database.update table.name fun _ => changed
              return (← fireDueAt fuel context { around with database } target .after event
                (target.frame (some old) (some (table.identified new)))).database
          | _ => return database

/-- Removes a row. -/
def removeRowAt : Nat → ChangeContext → Surroundings → ChangeTarget → SqlRow →
    Except SqlRefusal Database
  | 0, _, _, _, _ => .error .tooDeep
  | fuel + 1, context, around, target, old => do
      let frame := target.frame (some old) none
      if target.isView then
        return (← fireDueAt fuel context around target .instead .delete frame).database
      let fired ← fireDueAt fuel context around target .before .delete frame
      if fired.ignored then return fired.database
      let database := fired.database.update target.table.name fun table =>
        { table with rows := table.rows.filter fun row => row.id ≠ old.id }
      return (← fireDueAt fuel context { around with database } target .after .delete
        frame).database

/-- Inserts rows. -/
def insertAt : Nat → ChangeContext → Surroundings → Insertion → Except SqlRefusal Database
  | 0, _, _, _ => .error .tooDeep
  | fuel + 1, context, around, insertion => do
      let target ← around.database.changeTarget around.defined insertion.table .insert
      for name in insertion.columns.getD [] do
        insertion.checkListed target.table target.isView name
      let given ←
        match insertion.rows with
        | some query => query.evaluate around
        | none => pure { columns := [], rows := [[]] }
      let plan ← insertion.plan target given.columns.length
      let resolution := context.resolution <|> insertion.resolution
      let context := { context with resolution }
      if around.checking then
        let _ ← Insertion.newRow around.database target.table plan []
        checkUpserts around target insertion
        checkReturning around
          (frameOf target insertion.table none target.unknownRow) insertion.returning
        return (← fireDueAt fuel context around target .before .insert
          (target.frame none (some target.unknownRow))).database
      given.rows.foldlM (fun database values =>
        insertRowAt fuel context { around with database } target insertion resolution plan values)
        around.database

/-- Changes rows. -/
def updateAt : Nat → ChangeContext → Surroundings → Update → Except SqlRefusal Database
  | 0, _, _, _ => .error .tooDeep
  | fuel + 1, context, around, update => do
      let around ← update.sharing.foldlM (Evaluation.shareAt fuel) around
      let event := RowEvent.update (update.changes.flatMap fun change => change.1)
      let target ← around.database.changeTarget around.defined update.table event
      let resolution := context.resolution <|> update.resolution
      let context := { context with resolution }
      if around.checking then
        let found ← matching around update.table update.otherName update.sources none
        for frame in found do
          let _ ← assignAll (around.within frame) target update.changes target.unknownRow
      let frames ← matching around update.table update.otherName update.sources update.condition
      let frames ← selected around "UPDATE" update.order update.limit update.offset frames
      if around.checking then
        checkReturning around (frameOf target update.table none target.unknownRow)
          update.returning
        let row := target.unknownRow
        return (← fireDueAt fuel context around target .before event
          (target.frame (some row) (some row))).database
      frames.foldlM (fun database frame => do
        let (seen, others) := split target frame
        let current :=
          if target.isView then some seen
          else ((database.table? target.table.name).map SqlTable.rows).bind fun rows =>
            rows.find? fun row => row.id = seen.id
        match current with
        | none => return database
        | some old =>
            let around := { around with database }
            let inner := around.within (frameOf target update.table update.otherName old :: others)
            let new ← assignAll inner target update.changes old
            replaceRowAt fuel context around target resolution event old new) around.database

/-- Removes rows. -/
def deleteAt : Nat → ChangeContext → Surroundings → Deletion → Except SqlRefusal Database
  | 0, _, _, _ => .error .tooDeep
  | fuel + 1, context, around, deletion => do
      let around ← deletion.sharing.foldlM (Evaluation.shareAt fuel) around
      let target ← around.database.changeTarget around.defined deletion.table .delete
      let frames ← matching around deletion.table deletion.otherName [] deletion.condition
      let frames ← selected around "DELETE" deletion.order deletion.limit deletion.offset frames
      if around.checking then
        checkReturning around (frameOf target deletion.table none target.unknownRow)
          deletion.returning
        return (← fireDueAt fuel context around target .before .delete
          (target.frame (some target.unknownRow) none)).database
      frames.foldlM (fun database frame =>
        removeRowAt fuel context { around with database } target (split target frame).1)
        around.database

/-- Performs a statement, of which only what it changes counts. -/
def performAt : Nat → ChangeContext → Surroundings → RowStatement → Except SqlRefusal Database
  | 0, _, _, _ => .error (.other "too many levels of trigger recursion")
  | fuel + 1, context, around, statement =>
      match statement with
      | .insert insertion => insertAt fuel context around insertion
      | .update update => updateAt fuel context around update
      | .delete deletion => deleteAt fuel context around deletion
      | .query query => do
          let _ ← query.evaluate around
          return around.database

end

end Change

namespace Database

/-- Performs a statement that reads or changes rows: the rows that it gives, and the database after
it. -/
def performOnRows (database : Database) (parameters : List (Text × Cell)) (checking : Bool)
    (statement : RowStatement) : Except SqlRefusal (List (List Cell) × Database) := do
  let around : Surroundings := { database, parameters, checking }
  match statement with
  | .query query =>
      let table ← query.evaluate around
      if let some (column, cell) := table.firstStray? then
        throw (.undecodable column cell.toBytes)
      return (table.rows, database)
  | statement => return ([], ← Change.performAt evaluationDepth {} around statement)

end Database

end EventForge
