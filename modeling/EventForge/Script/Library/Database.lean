import EventForge.Script.Library.Closure
import EventForge.Sql.Connection

/-!
# Databases of scripts

A script executes statements on connections.  What they give is read from a cursor, row by row.  A
connection that does not count each change at once keeps its changes to itself until they are
committed.
-/

namespace EventForge

/-!
## Cursors

A statement can be executed with values for its parameters by their names or by their places.  It
gives rows under the names of columns, or says how many rows it changed.
-/

/-- A value for a parameter, or the name of the kind of a value that no parameter takes. -/
abbrev Bindable := Except Text Document

inductive BoundValues
  | named (values : Fields Bindable)
  | placed (values : List Bindable)

/-- What a statement came to. -/
structure Execution where
  rows : List (List Document) := []
  /-- The names of the columns, for a statement that gives rows. -/
  columns : Option (List Text) := none
  /-- How many rows it changed, for a statement that changes rows. -/
  changed : Option Nat := none
  /-- The number of the row that it added last. -/
  added : Option Int := none
deriving Inhabited

namespace FirstStatement

/-- Gives the parameters without names their places in order. -/
def numberParameters (names : List (Option Text)) : List SqlToken → List SqlToken
  | [] => []
  | token :: tokens =>
      if token.kind = .variable && token.written.length = 1 then
        let place := Text.ofNat (names.length + 1)
        { token with written := token.written ++ place } ::
          numberParameters (names ++ [some place]) tokens
      else
        match addParameter names token with
        | .ok names => token :: numberParameters names tokens
        | .error _ => token :: numberParameters names tokens

/-- The first statement of a text, in which every parameter has a name. -/
def ofNumbered (text : Text) : Except SqlRefusal FirstStatement := do
  let _ ← ofText text
  ofTokens (numberParameters [] (SqlToken.ofText text))

end FirstStatement

namespace Connection

/-- The cell for a value, at its position among the parameters. -/
def cellOf (position : Nat) : Bindable → Except SqlFault Cell
  | .ok value => bind position value
  | .error kind => .error (.refused (.unsupported position kind))

/-- The cells for parameters by their places, from a position on. -/
def bindPlaced (position : Nat) : List (Option Text) → List Bindable →
    Except SqlFault (List (Text × Cell))
  | name :: names, value :: values => do
      let cell ← cellOf position value
      let others ← bindPlaced (position + 1) names values
      return (name.getD (Text.ofNat position), cell) :: others
  | _, _ => .ok []

/-- The cells for parameters by their names, from a position on.  `given` holds the names as they
stand in the statement. -/
def bindNamed (values : Fields Bindable) (position : Nat) :
    List (Option Text) → Except SqlFault (List (Text × Cell))
  | [] => .ok []
  | none :: _ => .error (.refused (.namelessParameter position))
  | some name :: names => do
      match values.get? name with
      | none => throw (.refused (.unboundParameter name))
      | some value =>
          let cell ← cellOf position value
          let others ← bindNamed values (position + 1) names
          return (name, cell) :: others

/-- The names of the columns of what a statement gives. -/
def columnsOf? (database : Database) : Statement → Option (List Text)
  | .rows (.query query) =>
      match query.check { database } with
      | .ok table => some (table.columns.map fun column => column.name)
      | .error _ => none
  | .tableInfo _ => some ["cid", "name", "type", "notnull", "dflt_value", "pk"]
  | _ => none

/-- The name of the table whose rows a statement changes. -/
def changedTable? : Statement → Option Text
  | .rows (.insert statement) => some statement.table.name
  | .rows (.update statement) => some statement.table.name
  | .rows (.delete statement) => some statement.table.name
  | _ => none

/-- Whether two cells are written alike. -/
def sameCell : Cell → Cell → Bool
  | .null, .null => true
  | .integer first, .integer second => first == second
  | .real first, .real second => first.toBits == second.toBits
  | .text first, .text second => first == second
  | .blob first, .blob second => first == second
  | _, _ => false

def sameCells (first second : SqlRow) : Bool :=
  first.id == second.id && (first.cells.zip second.cells).all fun pair => sameCell pair.1 pair.2

/-- How many rows a statement changed, and the number of the last one that it added. -/
def changes (before after : Database) (statement : Statement) : Option Nat × Option Int :=
  match changedTable? statement with
  | none => (none, none)
  | some name =>
      let rowsOf (database : Database) : List SqlRow :=
        ((database.table? name).map SqlTable.rows).getD []
      let earlier := rowsOf before
      let later := rowsOf after
      match statement with
      | .rows (.insert _) => (some (later.length - earlier.length), later.getLast?.map SqlRow.id)
      | .rows (.delete _) => (some (earlier.length - later.length), none)
      | _ => (some ((earlier.zip later).filter fun pair => !sameCells pair.1 pair.2).length, none)

/-- The description of the columns of a table. -/
def tableRows (database : Database) (name : Text) : List (List Document) :=
  match database.table? name with
  | none => []
  | some table =>
      (table.columns.zipIdx).map fun (column, place) =>
        let key := (table.primary.findIdx? (sameName column.name)).map fun index => index + 1
        [.integer place, .text column.name, .text column.typeName,
          .integer (if column.notNull then 1 else 0),
          match column.standardText with
          | some written => .text written
          | none => .null,
          .integer (key.getD 0)]

/-- Executes a statement with values for its parameters. -/
def run (connection : Connection) (statement : Text) (values : BoundValues) :
    Except SqlFault (Execution × Connection) := do
  if connection.closed then throw (.refused .closed)
  if statement.contains (0 : CodePoint) then throw (.refused .nullCharacter)
  if connection.foreign then throw (.refused .notADatabase)
  let read :=
    match values with
    | .named _ => FirstStatement.ofText statement
    | .placed _ => FirstStatement.ofNumbered statement
  let first ← read.mapError .refused
  (connection.database.prepare first.statement).mapError .refused
  if first.isFollowed then throw (.refused .severalStatements)
  let bound ←
    match values with
    | .named values => bindNamed values 1 first.parameters
    | .placed values =>
        if values.length ≠ first.parameters.length then
          throw (.refused (.bindingCount first.parameters.length values.length))
        bindPlaced 1 first.parameters values
  let (rows, database) ← (connection.database.perform bound first.statement).mapError .refused
  let recorded := connection.database.recorded first.tokens first.statement database
  let found :=
    match first.statement with
    | .tableInfo table => tableRows connection.database table
    | _ => rows.map (·.map documentOf)
  let (changed, added) := changes connection.database recorded first.statement
  return (
    { rows := found, columns := columnsOf? connection.database first.statement, changed, added },
    { connection with database := recorded })

end Connection

/-!
## Connections of scripts
-/

namespace ScriptRun

/-- The connection at a place. -/
def connectionAt (place : ObjectPlace) : ScriptRun ScriptConnection := do
  match ← objectAt place with
  | .connection connection => return connection
  | _ => return { place := none }

/-- The database that a connection sees. -/
def openConnection (found : ScriptConnection) : ScriptRun Connection := do
  match found.pending, found.place with
  | some database, _ => return { database, closed := found.isClosed }
  | none, some place =>
      return { (← get).workspace.connection place with closed := found.isClosed }
  | none, none => return { database := found.ownDatabase, closed := found.isClosed }

/-- Keeps what a connection did to its database. -/
def keepDatabase (place : ObjectPlace) (found : ScriptConnection) (database : Database) :
    ScriptRun Unit := do
  if found.pending.isSome then
    setObject place (.connection { found with pending := some database })
  else
    match found.place with
    | some file =>
        modify fun state => { state with workspace := state.workspace.keep file database }
    | none => setObject place (.connection { found with ownDatabase := database })

/-- Raises the fault of a statement. -/
def refuseStatement {Value : Type} (fault : SqlFault) : ScriptRun Value :=
  let kind : String :=
    match fault.kind with
    | .databaseUse => "sqlite3.ProgrammingError"
    | .databaseIntegrity => "sqlite3.IntegrityError"
    | .overflow => "OverflowError"
    | .utf8Encoding => "UnicodeEncodeError"
    | _ => "sqlite3.OperationalError"
  refuse kind fault.message

/-- The value that a script sees for one of a database. -/
def valueOfCell : Document → ScriptValue
  | .null => .nothing
  | .bool truth => .bool truth
  | .integer number => .integer number
  | .float number => .float number
  | .text content => .text content
  | .bytes content => .bytes content
  | _ => .unknown

/-- The value that a database takes for one of a script. -/
def bindableOf (value : ScriptValue) : ScriptRun Bindable := do
  match ← contentOf value with
  | .nothing => return .ok .null
  | .bool truth => return .ok (.bool truth)
  | .integer number => return .ok (.integer number)
  | .float number => return .ok (.float number)
  | .text content => return .ok (.text content)
  | content =>
      match ← bytes? content with
      | some content => return .ok (.bytes content)
      | none => return .error (← kindName value)

/-- The values that parameters are given. -/
def boundValues (value : ScriptValue) : ScriptRun BoundValues := do
  match ← entries? (← contentOf value) with
  | some entries =>
      let named ← entries.toList.filterMapM fun entry => do
        match entry.1 with
        | .text name => return some (name, ← bindableOf entry.2)
        | _ => return none
      return .named named
  | none =>
      match ← contentOf value with
      | .tuple items => return .placed (← items.mapM bindableOf)
      | .unknown => return .placed []
      | content =>
          match ← list? content with
          | some items => return .placed (← items.mapM bindableOf)
          | none =>
              if (← method? value "__getitem__").isSome && (← size? value).isSome then
                return .placed (← (← itemsOf value).mapM bindableOf)
              refuse "sqlite3.ProgrammingError" "parameters are of unsupported type"

/-- The first word of a statement. -/
def leadingWord (statement : Text) : Text :=
  Text.toAsciiLower
    ((statement.dropWhile CodePoint.isBlank).takeWhile CodePoint.isAsciiLetter)

/-- Makes the changes of a connection count, or drops them. -/
def settle (place : ObjectPlace) (found : ScriptConnection) (keeps : Bool) : ScriptRun Unit := do
  let settled := { found with pending := none }
  setObject place (.connection settled)
  if keeps then
    if let some database := found.pending then keepDatabase place settled database

/-- Begins to keep the changes of a connection to itself. -/
def beginChanges (place : ObjectPlace) (found : ScriptConnection) : ScriptRun ScriptConnection := do
  let connection ← openConnection found
  let begun := { found with pending := some connection.database }
  setObject place (.connection begun)
  return begun

/-- Executes a statement on a connection. -/
def executeOn (place : ObjectPlace) (statement : Text) (values : BoundValues) :
    ScriptRun Execution := do
  let found ← connectionAt place
  let word := leadingWord statement
  let changesRows := [("insert" : Text), "update", "delete", "replace"].contains word
  let isPending := found.pending.isSome
  let found ←
    if changesRows && !found.isAutomatic && !isPending && !found.isClosed then
      beginChanges place found
    else pure found
  match (← openConnection found).run statement values with
  | .error fault => refuseStatement fault
  | .ok (execution, connection) =>
      if word = ("begin" : Text) then
        if isPending then
          refuse "sqlite3.OperationalError" "cannot start a transaction within a transaction"
        let _ ← beginChanges place found
      else if word = ("commit" : Text) || word = ("end" : Text) then
        if !isPending then
          refuse "sqlite3.OperationalError" "cannot commit - no transaction is active"
        settle place found true
      else if word = ("rollback" : Text) then
        if !isPending then
          refuse "sqlite3.OperationalError" "cannot rollback - no transaction is active"
        settle place found false
      else keepDatabase place found connection.database
      return execution

/-- A new cursor of a connection. -/
def newCursor (connection : ObjectPlace) : ScriptRun ObjectPlace := keep (.cursor { connection })

/-- Refuses a connection that is closed. -/
def requireOpen (place : ObjectPlace) : ScriptRun Unit := do
  if (← connectionAt place).isClosed then refuseStatement (.refused .closed)

/-- Executes a statement and leaves what it gives to a cursor. -/
def executeAt (place : ObjectPlace) (cursor : ScriptCursor) (statement : Text)
    (values : BoundValues) : ScriptRun ScriptCursor := do
  let execution ← executeOn cursor.connection statement values
  let executed : ScriptCursor := {
    cursor with
    columns := execution.columns
    rows := execution.rows.map (·.map valueOfCell)
    rowCount := (execution.changed.map fun (count : Nat) => (count : Int)).getD (-1)
    lastRow := (execution.added.map ScriptValue.integer).getD cursor.lastRow }
  setObject place (.cursor executed)
  return executed

/-- The statement that an argument must be. -/
def statementOf (value : ScriptValue) : ScriptRun Text :=
  textOf value fun kind => ("execute() argument 1 must be str, not " : Text) ++ kind

/-- The statements of a text. -/
def statementsOf (script : Text) : Nat → List Text → List SqlToken → List Text
  | 0, found, _ => found.reverse
  | fuel + 1, found, tokens =>
      match tokens.dropWhile (SqlToken.isSymbol ";") with
      | [] => found.reverse
      | tokens =>
          match SqlReader.statement tokens with
          | .ok (_, rest) =>
              let own := tokens.take (tokens.length - rest.length)
              statementsOf script fuel (SqlToken.span own :: found) rest
          | .error _ => (SqlToken.span tokens :: found).reverse

/-- Executes a statement once for each of some values. -/
def executeMany (place : ObjectPlace) (cursor : ScriptCursor) (statement : Text) :
    Int → List ScriptValue → ScriptRun Unit
  | count, [] => setObject place (.cursor { cursor with rowCount := count, rows := [] })
  | count, values :: others => do
      let executed ← executeAt place cursor statement (← boundValues values)
      executeMany place executed statement (count + max 0 executed.rowCount) others

/-- What connections and cursors both execute. -/
def executeBy (name : String) (place : ObjectPlace) (cursor : ScriptCursor)
    (arguments : ScriptArguments) : ScriptRun ScriptValue := do
  requireOpen cursor.connection
  match name, ← plainArguments (Text.ofString name) (if name == "executemany" then 2 else 1)
      (some 2) arguments with
  | "execute", statement :: values =>
      let statement ← statementOf statement
      let _ ← executeAt place cursor statement (← boundValues (values.headD (.tuple [])))
      return .object place
  | "executemany", [statement, values] =>
      executeMany place cursor (← statementOf statement) 0 (← itemsOf values)
      return .object place
  | "executescript", [script] =>
      let script ← statementOf script
      settle cursor.connection (← connectionAt cursor.connection) true
      let tokens := SqlToken.ofText script
      for statement in statementsOf script (tokens.length + 1) [] tokens do
        let _ ← executeOn cursor.connection statement (.placed [])
      return .object place
  | _, _ => return .unknown

/-- The methods of connections. -/
def connectionMethod (name : String) (place : ObjectPlace) (arguments : ScriptArguments) :
    ScriptRun ScriptValue := do
  match name with
  | "execute" | "executemany" | "executescript" =>
      requireOpen place
      let cursor ← newCursor place
      executeBy name cursor { connection := place } arguments
  | "cursor" =>
      requireOpen place
      return .object (← newCursor place)
  | "commit" =>
      requireOpen place
      settle place (← connectionAt place) true
      return .nothing
  | "rollback" =>
      requireOpen place
      settle place (← connectionAt place) false
      return .nothing
  | "close" =>
      setObject place (.connection { (← connectionAt place) with isClosed := true, pending := none })
      return .nothing
  | "__enter__" => return .object place
  | "__exit__" =>
      settle place (← connectionAt place) (arguments.given.headD .nothing == .nothing)
      return .bool false
  | _ => return .unknown

/-- Some rows of a cursor. -/
def takeRows (place : ObjectPlace) (cursor : ScriptCursor) (count : Nat) :
    ScriptRun (List ScriptValue) := do
  setObject place (.cursor { cursor with rows := cursor.rows.drop count })
  (cursor.rows.take count).mapM (rowOf (.object place) cursor)

/-- The methods of cursors. -/
def cursorMethod (name : String) (place : ObjectPlace) (cursor : ScriptCursor)
    (arguments : ScriptArguments) : ScriptRun ScriptValue := do
  if cursor.isClosed then
    refuse "sqlite3.ProgrammingError" "Cannot operate on a closed cursor."
  match name with
  | "execute" | "executemany" | "executescript" => executeBy name place cursor arguments
  | "fetchone" =>
      requireOpen cursor.connection
      return (← takeRows place cursor 1).headD .nothing
  | "fetchall" =>
      requireOpen cursor.connection
      newList (← takeRows place cursor cursor.rows.length)
  | "fetchmany" =>
      requireOpen cursor.connection
      let places ← namedArguments "fetchmany" ["size"] 0 arguments
      let size ← indexOf (argument places 0 (.integer 1))
      newList (← takeRows place cursor size.toNat)
  | "close" =>
      setObject place (.cursor { cursor with isClosed := true })
      return .nothing
  | _ => return .unknown

/-- Opens a database. -/
def connectDatabase (arguments : ScriptArguments) : ScriptRun ScriptValue := do
  let target := arguments.given.headD ((arguments.named.get? "database").getD .nothing)
  let path ← textOf target fun kind =>
    ("expected str, bytes or os.PathLike object, not " : Text) ++ kind
  let level := (arguments.named.get? "isolation_level").getD
    (arguments.given.getD 3 (.text []))
  let isAutomatic := level == .nothing
  match (← get).workspace.openDatabase path with
  | .error reason => refuse "sqlite3.OperationalError" reason
  | .ok (none, _) => keepValue (.connection { place := none, isAutomatic })
  | .ok (place, workspace) =>
      modify fun state => { state with workspace }
      keepValue (.connection { place := some place, isAutomatic })

end ScriptRun

end EventForge
