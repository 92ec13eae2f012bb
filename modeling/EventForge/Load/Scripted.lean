import EventForge.Load.Workload
import EventForge.Script.Session

/-!
# Workloads of scripts

An event module that is a script makes, stores and finds its events by functions of its own.  They are
called in the session in which the script has run, on the connection of the run; each loop has a
random source that is an object of the session.
-/

namespace EventForge

/-- What a script keeps while load is run with it. -/
structure ScriptedWork where
  session : ScriptState
  /-- The connection that the functions of the script are given. -/
  connection : ObjectPlace := 0
  /-- The mapping from the names of event types to what makes events. -/
  constructors : ScriptValue := .nothing
  /-- The random sources of loops. -/
  sources : List (LoopKind × ObjectPlace) := []

namespace ScriptRun

/-- Runs a function of the script where a value that ends a stream has no meaning. -/
def withoutEnds {Value : Type} (act : ScriptRun Value) : ScriptRun Value :=
  tryCatch act fun stop => do
    if ← isFaultOf stop "StopIteration" then
      refuse "RuntimeError" "coroutine raised StopIteration"
    throw stop

/-- Waits for a value. -/
def finished (value : ScriptValue) : ScriptRun ScriptValue := do
  finishWaiting (← awaited value) maxMembers

/-- Whether a fault is an error of storage or retrieval. -/
def isReported (fault : ScriptValue) : ScriptRun Bool := do
  match ← loaded? ErrorClass.module with
  | none => return false
  | some errors =>
      let kinds ← orderOf (← kindOf fault)
      [("StorageError" : Text), "RetrievalError"].anyM fun name => do
        match ← attribute? (.object errors) name with
        | some kind => return kinds.contains kind
        | none => return false

/-- Brings a database up to date: the connection to it, and the number of changes. -/
def migrateBy (module : ObjectPlace) (place : DatabasePlace) : ScriptRun (ObjectPlace × Nat) := do
  let connection ← keep (.connection { place := some place, rowFactory := .kind "sqlite3.Row" })
  let migrate ← attributeOf (.object module) "migrate"
  return (connection, ← lengthOf (← call migrate [.object connection]))

/-- The source that a script records, as the path of a file. -/
def sourceOf (source : ScriptValue) : ScriptRun Text := do
  match ← contentOf source with
  | .text path => return path
  | .unknown => return []
  | content =>
      match ← method? source "__fspath__" with
      | some method => shownText (← call method [])
      | none =>
          if (← bytes? content).isSome then
            refuseType (("argument should be a str object or an os.PathLike object returning " :
              Text) ++ "str, not " ++ (← displayText (← kindOf source)))
          refuseType (("expected str, bytes or os.PathLike object, not " : Text) ++
            (← kindName source))

/-- The source of a script, its event types by name, and what makes their events. -/
def prepareBy (module : ObjectPlace) :
    ScriptRun ((Text × List (Text × ScriptValue)) × ScriptValue) := do
  let source ← attributeOf (.object module) "TYPE_MAPPING_SOURCE"
  if source == .nothing then refuseValue "Events module does not record its schema source"
  let constructors ← attributeOf (.object module) "RANDOM_GENERATOR_CONSTRUCTORS"
  if !(← isTrue constructors) then return (([], []), .nothing)
  let names ← sortedItems (← itemsOf constructors) .nothing false
  let made ← mappingFrom "dict" { given := [constructors] }
  let types ← names.mapM fun name => do return (← shownText name, name)
  return ((← sourceOf source, types), .object made)

/-- Stores a random event of a type, or queries for such events: gives the number of rows. -/
def operateBy (work : ScriptedWork) (kind : LoopKind) (random : ObjectPlace)
    (eventType : ScriptValue) : ScriptRun Nat := do
  let connection : ScriptValue := .object work.connection
  let event ← call (← itemAt work.constructors eventType) [.object random]
  match kind with
  | .writer =>
      let _ ← finished (← call (← attributeOf event "store") [connection])
      return 1
  | .reader =>
      let draw : ScriptRun Int := do
        let value ← callEventFunction "random_time_value" { given := [.object random] }
        return value.integer?.getD 0
      let first ← draw
      let second ← draw
      let retrieve ← attributeOf (← kindOf event) "retrieve"
      let window := [.integer (min first second - LoadLoop.windowPad), .integer (max first second)]
      lengthOf (← finished (← call retrieve (connection :: window)))

/-- Performs an operation; an error of storage or retrieval is told apart from other faults. -/
def attempt (operation : ScriptRun Nat) : ScriptRun (Except RaisedFault Nat) := do
  let act : ScriptRun (Except RaisedFault Nat) := do return .ok (← withoutEnds operation)
  tryCatch act fun stop => do
    match stop with
    | .raised fault => if ← isReported fault then return .error (← settled fault) else throw stop
    | .exhausted => throw stop

end ScriptRun

namespace ScriptedWork

/-- Runs a part of the script on a workspace. -/
def perform {Value : Type} (act : ScriptRun Value) (world : Workspace × ScriptedWork) :
    Except Fault Value × Workspace × ScriptedWork :=
  let (workspace, work) := world
  let (result, session) := { work.session with workspace }.perform act
  (result.mapError RaisedFault.fault, session.workspace, { work with session })

/-- The random source of a loop, as an object of the session. -/
def sourceFor (loop : TypedLoop ScriptValue) (work : ScriptedWork) : ObjectPlace × ScriptedWork :=
  match work.sources.find? fun found => found.1 = loop.kind with
  | some found => (found.2, work)
  | none =>
      let place := work.session.objects.size
      let objects := work.session.objects.push (.random loop.source none)
      (place, { work with
        session := { work.session with objects }
        sources := (loop.kind, place) :: work.sources })

/-- Draws a random event type by the random source at a place. -/
def choose (loop : TypedLoop ScriptValue) (place : ObjectPlace) : ScriptRun ScriptValue := do
  match ← ScriptRun.objectAt place with
  | .random source spare =>
      let (index, source) := source.below loop.types.length
      ScriptRun.setObject place (.random source spare)
      return (loop.types.getD index ([], .nothing)).2
  | _ => return .nothing

/-- Brings the database at a place up to date by the script of a module. -/
def migrate (module : ObjectPlace) (place : DatabasePlace) (world : Workspace × ScriptedWork) :
    Migrated (Workspace × ScriptedWork) :=
  match perform (ScriptRun.withoutEnds (ScriptRun.migrateBy module place)) world with
  | (.ok (connection, changes), workspace, work) =>
      { applied := [], changes := .ok changes, world := (workspace, { work with connection }) }
  | (.error fault, world) => { applied := [], changes := .error fault, world }

/-- The source and the event types of a module. -/
def prepare (module : ObjectPlace) (world : Workspace × ScriptedWork) :
    Except Fault (Text × List (Text × ScriptValue)) × Workspace × ScriptedWork :=
  match perform (ScriptRun.withoutEnds (ScriptRun.prepareBy module)) world with
  | (.ok (prepared, constructors), workspace, work) =>
      (.ok prepared, workspace, { work with constructors })
  | (.error fault, world) => (.error fault, world)

/-- Performs the next operation of a loop; the script reads the clock anew. -/
def tick : Ticker ScriptValue (Workspace × ScriptedWork) := fun clock world loop =>
  let (random, work) :=
    sourceFor loop { world.2 with session := { world.2.session with clock } }
  let act : ScriptRun (Except RaisedFault Nat) := do
    ScriptRun.attempt do
      ScriptRun.operateBy work loop.kind random (← choose loop random)
  match perform act (world.1, work) with
  | (.ok (.ok rows), world) => (none, loop.count rows, world)
  | (.ok (.error fault), world) => (some (.reported fault.fault), loop, world)
  | (.error fault, world) => (some (.unexpected fault), loop, world)

/-- The workload of the module at a place of a session. -/
def workload (module : ObjectPlace) : Workload ScriptValue ScriptedWork :=
  { migrate := migrate module, prepare := prepare module, tick := fun _ => tick }

end ScriptedWork

end EventForge
