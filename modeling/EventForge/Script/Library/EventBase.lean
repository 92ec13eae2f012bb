import EventForge.Script.Library.Chance
import EventForge.Script.Library.Database
import EventForge.Script.Library.DataClass
import EventForge.Script.Library.EventError
import EventForge.Store.Migration

/-!
# What event modules are written with

The classes of event modules stand below one class, which says how events are shown and leaves the
rest to them.  Beside it there are functions that bind values, decode them, generate them and bring
tables up to date.
-/

namespace EventForge

namespace ScriptRun

/-- The module of the class of events. -/
def eventModule : Text := "dbload.eventgen.runtime.contract"

/-- Attributes of the class of events with their notes. -/
def eventConstants : List (Text × Text × ScriptValue) := [
  ("TABLE", "ClassVar[str]", .text []), ("TIME_COLUMN", "ClassVar[str]", .text "time"),
  ("COLUMNS", "ClassVar[tuple[str, ...]]", .tuple []),
  ("COLUMN_DEFS", "ClassVar[tuple[tuple[str, str], ...]]", .tuple []),
  ("WIDTHS", "ClassVar[tuple[int, ...]]", .tuple []), ("INSERT_SQL", "ClassVar[str]", .text []),
  ("SELECT_SQL", "ClassVar[str]", .text [])]

/-- The methods of the class of events, with their parameters. -/
def eventMethods : List (String × Bool × List Text) := [
  ("table_name", true, ["cls"]), ("values", false, ["self"]), ("to_dict", false, ["self"]),
  ("new_random", true, ["cls", "rng"]), ("store", false, ["self", "conn"]),
  ("retrieve", true, ["cls", "conn", "start", "end"])]

/-- The class of events. -/
def newEventClass : ScriptRun ScriptValue := do
  let notes ← newMapping (eventConstants.map fun (name, note, _) =>
    (ScriptValue.text name, .text note))
  let methods ← eventMethods.mapM fun (name, ofClass, _) => do
    let written := Text.ofString name
    let function ← newClosure "event" name [] true
      [("__name__", .text written), ("__qualname__", .text (("Event." : Text) ++ written))]
    let method ← if ofClass then keepValue (.wrapper .ofClass [function]) else pure function
    return (written, method)
  let constants : Fields ScriptValue := eventConstants.map fun (name, _, value) => (name, value)
  let names ← newFields (("__module__", .text eventModule) :: ("__annotations__", notes) ::
    (constants ++ methods))
  makeClass { name := "Event", path := "Event", module := eventModule, names }

/-- The values of the attributes of an event. -/
def eventValues (event : ScriptValue) : ScriptRun ScriptValue := do
  match ← fieldsOfInstance? event with
  | none => refuseType "must be called with a dataclass type or instance"
  | some fields =>
      return .tuple (← fields.mapM fun field => do attributeOf event (← fieldName field))

/-- Calls a method of the class of events. -/
def callEventMethod (name : String) (arguments : ScriptArguments) : ScriptRun ScriptValue := do
  let parameters := (eventMethods.find? fun entry => entry.1 == name).map fun entry => entry.2.2
  let given ← libraryArguments (("Event." : Text) ++ Text.ofString name)
    ((parameters.getD []).map fun parameter => (parameter, none)) arguments
  let owner := (given.head?.map fun entry => entry.2).getD .nothing
  match name with
  | "table_name" => attributeOf owner "TABLE"
  | "values" => eventValues owner
  | "to_dict" =>
      let columns ← attributeOf owner "COLUMNS"
      let values ← call (← attributeOf owner "values") []
      let place ← keep (.mapping #[])
      putEntries place ((← itemsOf columns).zip (← itemsOf values))
      return .object place
  | "new_random" => raiseWith "NotImplementedError" []
  | _ => newStream (.later (.native "event" "undone") [])

/-- Wraps a value to a width. -/
def narrowValue (value width : ScriptValue) : ScriptRun ScriptValue := do
  if ← isTrue (← compareValues .lessEqual width (.integer 0)) then
    refuseValue (("width must be > 0, got " : Text) ++ (← shownText width))
  let bound ← operate "<<" (.integer 1) width
  let value ← update "&" value (← operate "-" bound (.integer 1))
  let half ← operate "<<" (.integer 1) (← operate "-" width (.integer 1))
  if ← isTrue (← compareValues .greaterEqual value half) then update "-" value bound
  else return value

/-- Decodes a value that may be missing. -/
def decodeValue (value width : ScriptValue) : ScriptRun ScriptValue := do
  if value == .nothing then return .integer 0
  narrowValue (← toInteger value) width

/-- The number of the members of a value that must have one. -/
def lengthOf (value : ScriptValue) : ScriptRun Nat := do
  match ← size? value with
  | some size => return size
  | none =>
      if value.isUnknown then return 0
      refuseType (("object of type " : Text) ++ Quoted.ofText (← kindName value) ++
        " has no len()")

/-- Decodes the values of a row. -/
def decodeValues (row widths : ScriptValue) : ScriptRun ScriptValue := do
  let columns ← lengthOf row
  let expected ← lengthOf widths
  if columns ≠ expected then
    refuseValue (("row has " : Text) ++ Text.ofNat columns ++ " columns, expected " ++
      Text.ofNat expected)
  newList (← ((← itemsOf row).zip (← itemsOf widths)).mapM fun pair => decodeValue pair.1 pair.2)

/-- A random number below a bound from a random object. -/
def drawByMethod (source : ScriptValue) (bound : Nat) : ScriptRun ScriptValue := do
  call (← attributeOf source "randrange") [.integer bound]

/-- The seconds of the clock. -/
def clockSeconds : ScriptRun Int := do
  match (← get).clock.seconds? with
  | some seconds => return seconds
  | none => refuseOverflow Generator.clockFault.message

/-- A random value from a generator. -/
def generateValue (generator : Generator) (source : ScriptValue) : ScriptRun ScriptValue := do
  match generator with
  | .integer => drawByMethod source Generator.integerBound
  | .wideInteger => drawByMethod source Generator.wideBound
  | .time =>
      let seconds ← clockSeconds
      let drawn ← drawByMethod source (2 * Generator.jitter)
      operate "-" (← operate "+" (.integer seconds) drawn) (.integer Generator.jitter)
  | .clock => return .integer (← get).clock.milliseconds

/-- The connection that a value must be. -/
def connectionOf (value : ScriptValue) : ScriptRun ObjectPlace := do
  match value with
  | .object place =>
      match ← objectAt place with
      | .connection _ => return place
      | _ => refuseAttribute (Quoted.ofText (← kindName value) ++ " object") "execute" value
  | value => refuseAttribute (Quoted.ofText (← kindName value) ++ " object") "execute" value

/-- The class of an error of event modules. -/
def errorKind (name : Text) : ScriptRun ScriptValue := do
  match (← get).modules.get? ErrorClass.module with
  | some module => attributeOf (.object module) name
  | none => return .kind "Exception"

/-- The columns that an argument lists, with their types. -/
def listedColumns (value : ScriptValue) : ScriptRun (List (Text × Text)) := do
  (← itemsOf value).mapM fun pair => do
    match ← itemsOf pair with
    | [name, typeName] => return (← shownText name, ← shownText typeName)
    | parts =>
        if parts.length < 2 then
          refuseValue (("not enough values to unpack (expected 2, got " : Text) ++
            Text.ofNat parts.length ++ ")")
        refuseValue "too many values to unpack (expected 2)"

/-- Brings a table up to date. -/
def migrateTable (given : Fields ScriptValue) : ScriptRun ScriptValue := do
  let found (name : Text) : ScriptValue := (given.get? name).getD .nothing
  let place ← connectionOf (found "conn")
  let table ← shownText (found "table")
  let target : Migration.Target := {
    table, columns := ← listedColumns (found "column_defs")
    timeColumn := ← shownText (found "time_column") }
  let owner ← connectionAt place
  let (outcome, connection) := Migration.migrateTable (← openConnection owner) target
  keepDatabase place owner connection.database
  match outcome with
  | .ok applied => newList (applied.map .text)
  | .error error =>
      let kind ← errorKind "MigrationError"
      raise (← callWith kind { given := [.text error.message], named := [("table", .text table)] })

/-- Opens a database as the program does. -/
def openAsProgram (given : Fields ScriptValue) : ScriptRun ScriptValue := do
  let path := (given.get? "db_path").getD .nothing
  let opened ← connectDatabase
    { given := [.text (← shownText path)], named := [("isolation_level", .nothing)] }
  setAttribute opened "row_factory" (.kind "sqlite3.Row")
  return opened

/-- The parameters of the functions of event modules. -/
def eventFunctions : List (String × List (Text × Option ScriptValue)) := [
  ("narrow", [("value", none), ("width", none)]),
  ("coerce_nullable", [("value", none), ("width", none)]),
  ("decode_row", [("row", none), ("widths", none)]),
  ("random_int_value", [("rng", none)]), ("random_int64_value", [("rng", none)]),
  ("random_time_value", [("rng", none)]), ("now_millis", [("rng", some .nothing)]),
  ("get_generator", [("name", none)]),
  ("auto_migrate", [("conn", none), ("table", none), ("column_defs", none),
    ("time_column", none)]),
  ("open_connection", [("db_path", none), ("busy_timeout_ms", some (.integer 5000))]),
  ("retry_delay", [("attempt", none), ("initial_delay", none), ("backoff_step", none)])]

/-- Calls a function of event modules. -/
def callEventFunction (name : String) (arguments : ScriptArguments) : ScriptRun ScriptValue := do
  if name == "undone" then raiseWith "NotImplementedError" []
  if name == "bind_positional" then
    refuseNames "bind_positional" { arguments with given := [] }
    return ← newMapping ((arguments.given.zipIdx 1).map fun (value, place) =>
      (ScriptValue.text (Text.ofNat place), value))
  match eventFunctions.find? fun entry => entry.1 == name with
  | none => return .unknown
  | some entry =>
      let given ← libraryArguments (Text.ofString name) entry.2 arguments
      let found (name : Text) : ScriptValue := (given.get? name).getD .nothing
      match Generator.ofName? (Text.ofString name) with
      | some generator => generateValue generator (found "rng")
      | none =>
          match name with
          | "narrow" => narrowValue (found "value") (found "width")
          | "coerce_nullable" => decodeValue (found "value") (found "width")
          | "decode_row" => decodeValues (found "row") (found "widths")
          | "auto_migrate" => migrateTable given
          | "open_connection" => openAsProgram given
          | "retry_delay" =>
              operate "+" (found "initial_delay")
                (← operate "*" (found "attempt") (found "backoff_step"))
          | _ =>
              let wanted := found "name"
              match wanted with
              | .text wanted =>
                  match Generator.ofName? wanted with
                  | some _ => return .native "event" wanted.toString
                  | none => refuseValue (Generator.unknown wanted).message
              | wanted =>
                  requireKey wanted
                  refuseValue (("Unknown generator '" : Text) ++ (← shownText wanted) ++
                    "'. Valid: " ++ Text.bracketed (Generator.all.map fun generator =>
                      Quoted.ofText generator.name))

end ScriptRun

end EventForge
